import QueryLint.Files.Search
import QueryLint.Linter
import QueryLint.Manifest
import QueryLint.Settings.Basic

/-! One run: linting the standard input or the expressions of manifests, one after the other.

Every expression is linted, also behind one that failed; an error ends the run. If nothing failed
the run ends by saying so. -/

set_option autoImplicit false

namespace QueryLint

/-- The rule that an expression of a manifest belongs to. -/
structure RuleSite where
  name : Option String
  group : String
  file : String
  deriving DecidableEq, Repr

def RuleSite.describe (site : RuleSite) : String :=
  let name := site.name.getD "<unnamed>"
  s!"rule {name} in group {site.group} of {site.file}"

inductive RunError where
  | input (error : ReadError)
  | search (error : SearchError)
  | manifest (file : String) (error : ManifestError)
  | lint (site : Option RuleSite) (error : LintError)
  | closed
  deriving DecidableEq, Repr

/-! Errors with their causes, outermost first. -/

def RuleError.chain (error : RuleError) : List String :=
  match error with
  | .invalidPattern _ report => [error.message, report]
  | .other _ => [error.message]

def RenderError.chain (error : RenderError) : List String :=
  match error with
  | .closed => [error.message, closedMessage]
  | .invalidSpan .. => [error.message]

def LintError.chain (error : LintError) : List String :=
  match error with
  | .rule _ cause => error.message :: cause.chain
  | .render cause => error.message :: cause.chain

def ManifestError.chain (error : ManifestError) : List String :=
  match error with
  | .read cause => [error.message, cause.message]
  | .yaml => [error.message]

def RunError.chain : RunError → List String
  | .input error => ["failed to read expression from stdin", error.message]
  | .search error => ["failed to collect manifests", error.message]
  | .manifest file error => s!"failed to load manifest {file}" :: error.chain
  | .lint none error => error.chain
  | .lint (some site) error => s!"failed to lint {site.describe}" :: error.chain
  | .closed => [closedMessage]

/-- How many expressions were linted, and how many failed. -/
structure Tally where
  linted : Nat := 0
  failed : Nat := 0
  deriving DecidableEq, Repr

namespace Tally

def ofVerdict (v : Verdict) : Tally := ⟨1, if v.failed then 1 else 0⟩

def add (a b : Tally) : Tally := ⟨a.linted + b.linted, a.failed + b.failed⟩

def passed (t : Tally) : Bool := t.failed == 0

end Tally

/-- A run: fails, and keeps the session in either case. -/
abbrev RunM := ExceptT RunError (StateM Session)

namespace Run

def log (entry : Log.Entry) : RunM Unit :=
  modify fun s => { s with log := s.log ++ [entry] }

/-- Does what only keeps a log. -/
def logged {ε α : Type} (wrap : ε → RunError) (action : Logged ε α) : RunM α := do
  let s ← get
  let (result, entries) := action.run.run []
  set { s with log := s.log ++ entries }
  match result with
  | .ok a => pure a
  | .error e => throw (wrap e)

/-- The lines of a text joined again: line ends are line feeds, and the last line has none. -/
def joinLines : List Char → List Char
  | [] => []
  | ['\n'] => []
  | ['\r', '\n'] => []
  | '\r' :: '\n' :: rest => '\n' :: joinLines rest
  | c :: rest => c :: joinLines rest

/-- The expression on the standard input. -/
def readExpression (input : ByteArray) : RunM String :=
  match String.fromUTF8? input with
  | none => throw (.input .invalidUtf8)
  | some text => pure (String.ofList (joinLines text.toList))

section

variable [Pattern.Engine] [Coloring] [Manifest.Decoder] [FileTree.Globbing]

/-- Lints one expression. -/
def lint (linter : Linter) (filter : Severity) (site : Option RuleSite) (expression : String) :
    RunM Tally := do
  let s ← get
  let (result, s) := (linter.run expression filter).run.run s
  set s
  match result with
  | .ok verdict => pure (.ofVerdict verdict)
  | .error e => throw (.lint site e)

def lintRules (linter : Linter) (filter : Severity) (file : String) :
    List RuleExpression → RunM Tally
  | [] => pure {}
  | rule :: rest => do
    let first ← lint linter filter (some ⟨rule.name, rule.group, file⟩) rule.expr
    let others ← lintRules linter filter file rest
    pure (first.add others)

def lintFiles (linter : Linter) (filter : Severity) (files : FileTree) :
    List String → RunM Tally
  | [] => pure {}
  | file :: rest => do
    let rules ← logged (.manifest file) (Manifest.expressionsOfFile files file)
    log (.debug s!"{file}: {rules.length} rule expression(s)")
    let first ← lintRules linter filter file rules
    let others ← lintFiles linter filter files rest
    pure (first.add others)

/-- Lints all that settings ask for. -/
def lintAll (settings : Settings) (linter : Linter) (files : FileTree) (input : ByteArray) :
    RunM Tally := do
  if settings.manifests.isEmpty then
    let expression ← readExpression input
    lint linter settings.levelFilter none expression
  else
    let found ← logged .search (Search.manifests files settings.recursive settings.manifests)
    if found.isEmpty then log (.warn "no manifests found")
    lintFiles linter settings.levelFilter files found

end

/-- Says that nothing failed. -/
def sayOk : RunM Unit := do
  let s ← get
  let (taken, sink) := s.sink.writeText "ok\n"
  set { s with sink := sink }
  if taken then pure () else throw .closed

end Run

/-- Does a run; tells whether all expressions passed. -/
def run [Pattern.Engine] [Coloring] [Manifest.Decoder] [FileTree.Globbing] (settings : Settings)
    (color : ColorMode) (paint : Paint) (files : FileTree) (input : ByteArray) : RunM Bool := do
  let linter : Linter :=
    { rules := Rule.defaults settings.deniedLabels color, color := color, paint := paint }
  let tally ← Run.lintAll settings linter files input
  Run.log (.info s!"{tally.linted} expression(s) linted, {tally.failed} failed")
  if tally.passed then Run.sayOk
  pure tally.passed

end QueryLint
