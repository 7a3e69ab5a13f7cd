import QueryLint.Files.Tree
import QueryLint.Settings.Format

/-! Loading settings from files. -/

set_option autoImplicit false

namespace QueryLint.Settings

/-- What stands behind the last dot of a file's name, unless the name begins with it. -/
def extension (path : String) : String :=
  let names := (FileTree.components path).filter fun name => name ≠ "" && name ≠ "."
  let name := (names.getLast?.getD "").toList
  let tail := name.reverse.takeWhile (· ≠ '.')
  if name = [] || name = ['.', '.'] || name.length ≤ tail.length + 1 then ""
  else String.ofList tail.reverse

/-- Settings from a text in the format that an extension names. -/
def ofText (extension text : String) : Except SettingsError Settings :=
  if extension = "yaml" || extension = "yml" then
    match ofYaml? text with
    | some s => .ok s
    | none => .error .yaml
  else if extension = "json" then
    match ofJson? text with
    | some s => .ok s
    | none => .error .json
  else .error (.invalid (.unknownFormat extension))

/-- Loads a file and checks what it says. -/
def load (files : FileTree) (path : String) : Except SettingsError Settings :=
  match files.readText path with
  | .error error => .error (.read error)
  | .ok text => do
    let s ← ofText (extension path) text
    s.validate
    pure s

/-- Names under which settings are looked for, in this order. -/
def fileNames : List String :=
  [".promqlinter.yaml", ".promqlinter.yml", ".promqlinter.json"]

/-- Loads the first settings file of a project, or else of the user, or else has the defaults. -/
def loadDefault (project home : FileTree) : Except SettingsError Settings :=
  match fileNames.find? project.exists? with
  | some name => load project name
  | none =>
    match fileNames.find? home.exists? with
    | some name => load home name
    | none => .ok {}

end QueryLint.Settings
