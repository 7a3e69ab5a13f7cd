import QueryLint.Files.Tree

/-! Why settings could not be taken. -/

set_option autoImplicit false

namespace QueryLint

/-- Settings that can be read and make no sense. -/
inductive InvalidSettings where
  | emptyLabel
  | malformedRule (flag : String)
  | unknownFormat (extension : String)
  deriving DecidableEq, Repr

def InvalidSettings.message : InvalidSettings → String
  | .emptyLabel => "denied label names must not be empty"
  | .malformedRule flag => s!"denied label must look like NAME=PATTERN, got `{flag}`"
  | .unknownFormat extension => s!"Unknown config file format: {extension}"

inductive SettingsError where
  | read (error : ReadError)
  | yaml
  | json
  | invalid (cause : InvalidSettings)
  deriving DecidableEq, Repr

/-- Of a file in a wrong format only the format is told. -/
def SettingsError.message : SettingsError → String
  | .read error => s!"IO error: {error.message}"
  | .yaml => "YAML parse error"
  | .json => "JSON parse error"
  | .invalid cause => s!"Invalid configuration: {cause.message}"

end QueryLint
