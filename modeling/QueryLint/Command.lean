import QueryLint.Command.Backend
import QueryLint.Command.Options
import QueryLint.Run
import QueryLint.Settings.Load

/-! The command as a whole: from its arguments and what it finds around it to what it writes. -/

set_option autoImplicit false

namespace QueryLint

/-- What the command finds around it. -/
structure Environment where
  project : FileTree
  home : FileTree := .directory []
  input : ByteArray := .empty
  isTerminal : Bool := false
  /-- Whether somebody asked for no colours. -/
  noColor : Bool := false
  /-- Whether somebody asked for colours everywhere. -/
  forceColor : Bool := false

/-- What the command leaves behind. -/
structure Outcome where
  exit : Nat
  output : List UInt8 := []
  errors : String := ""
  /-- What is told of the run itself: warnings only, unless more is asked for. -/
  log : List Log.Entry := []
  deriving DecidableEq, Repr

namespace Command

/-- Name and version. -/
def versionText : String := "promqlinter 0.1.0\n"

def helpText : String :=
  String.intercalate "\n" [
    "A pluggable PromQL linter",
    "",
    "Usage: promqlinter [OPTIONS]",
    "",
    "Options:",
    "  -d, --denied-label <NAME=PATTERN>  Reject label values matching a pattern (repeatable)",
    "  -f, --level-filter <LEVEL_FILTER>  Minimum diagnostic level to report [default: error]",
    "  -i, --input-k8s-manifest <PATH>    PrometheusRule manifest file or directory (repeatable)",
    "  -r, --recursive                    Search manifest directories recursively",
    "      --color <COLOR>                When to use colors",
    "  -c, --config <CONFIG>              Configuration file path",
    "  -v, --verbose                      Enable debug logging",
    "  -h, --help                         Print help",
    "  -V, --version                      Print version",
    ""]

/-- What is said when some expression failed. -/
def failureText : String := "some of linter plugins detects the filtered rules"

/-- Why settings could not be taken, outermost first. -/
def settingsChain (error : SettingsError) : List String :=
  match error with
  | .read cause => [error.message, cause.message]
  | _ => [error.message]

/-- Settings from the file that is named, or else from a default one. -/
def loadSettings (env : Environment) (config : Option String) : Except (List String) Settings :=
  let (context, loaded) := match config with
    | some path => (s!"failed to load config {path}", Settings.load env.project path)
    | none => ("failed to load config", Settings.loadDefault env.project env.home)
  match loaded with
  | .ok settings => .ok settings
  | .error error => .error (context :: settingsChain error)

/-- The settings of a run, with what options say on top. -/
def settings (env : Environment) (options : Options) : Except (List String) Settings := do
  let loaded ← loadSettings env options.config
  match options.overrides with
  | .ok overrides => pure (loaded.override overrides)
  | .error error => throw (settingsChain error)

/-- The line that reports a failure; a bright word begins it if colours are on. -/
def errorLine (colored : Bool) (chain : List String) : String :=
  let word := if colored then "\x1b[1;31merror\x1b[0m" else "error"
  String.intercalate ": " (word :: chain) ++ "\n"

/-- A run with options. Colours are decided when the settings are known. -/
def runWith (env : Environment) (options : Options) : Outcome :=
  match settings env options with
  | .error chain => { exit := 1, errors := errorLine env.forceColor chain }
  | .ok settings =>
    let color := settings.output.color.resolve env.isTerminal env.noColor
    let colored := color == .enabled
    let (result, session) :=
      (run settings color ⟨colored⟩ env.project env.input).run.run {}
    let (exit, errors) := match result with
      | .ok true => (0, "")
      | .ok false => (1, errorLine colored [failureText])
      | .error error => (1, errorLine colored error.chain)
    let log := session.log.filter fun entry => settings.output.verbose || entry.level = .warn
    { exit := exit, output := session.sink.written, errors := errors, log := log }

/-- Whether the standard input is needed. -/
def readsInput (env : Environment) (arguments : List String) : Bool :=
  match Request.read? arguments with
  | some (.run options) =>
    match settings env options with
    | .ok settings => settings.manifests.isEmpty
    | .error _ => false
  | _ => false

/-- Arguments that make no sense give the exit code 2. -/
def execute (env : Environment) (arguments : List String) : Outcome :=
  match Request.read? arguments with
  | none => { exit := 2, errors := "error: invalid arguments, try --help\n" }
  | some .version => { exit := 0, output := versionText.toUTF8.toList }
  | some .help => { exit := 0, output := helpText.toUTF8.toList }
  | some (.run options) => runWith env options

end Command

end QueryLint
