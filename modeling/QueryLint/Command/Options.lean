import QueryLint.Settings.Flag
import QueryLint.Settings.Basic

/-! The arguments of the command.

Arguments are read from left to right. A flag may be given once, except those that collect their
values; one that answers by itself, like the version, ends the reading there. -/

set_option autoImplicit false

namespace QueryLint

inductive Flag where
  | deniedLabel | levelFilter | manifest | recursive | color | config | verbose | version | help
  deriving DecidableEq, Repr

namespace Flag

def ofShort? : Char → Option Flag
  | 'd' => some .deniedLabel
  | 'f' => some .levelFilter
  | 'i' => some .manifest
  | 'r' => some .recursive
  | 'c' => some .config
  | 'v' => some .verbose
  | 'V' => some .version
  | 'h' => some .help
  | _ => none

def ofLong? : String → Option Flag
  | "denied-label" => some .deniedLabel
  | "level-filter" => some .levelFilter
  | "input-k8s-manifest" => some .manifest
  | "recursive" => some .recursive
  | "color" => some .color
  | "config" => some .config
  | "verbose" => some .verbose
  | "version" => some .version
  | "help" => some .help
  | _ => none

def takesValue : Flag → Bool
  | .deniedLabel | .levelFilter | .manifest | .color | .config => true
  | .recursive | .verbose | .version | .help => false

end Flag

/-- What the arguments say. -/
structure Options where
  deniedLabels : List String := []
  levelFilter : Option Severity := none
  manifests : List String := []
  recursive : Bool := false
  color : Option ColorChoice := none
  config : Option String := none
  verbose : Bool := false
  deriving DecidableEq, Repr

/-- What the command is asked for. -/
inductive Request where
  | run (options : Options)
  | version
  | help
  deriving DecidableEq, Repr

namespace Options

/-- A value that is given once. -/
def once? {α : Type} (earlier value : Option α) : Option (Option α) :=
  if earlier.isSome || value.isNone then none else some value

/-- A path is not empty. -/
def path? (value : String) : Option String :=
  if value = "" then none else some value

/-- Takes the value of a flag. -/
def setValue? (o : Options) (flag : Flag) (value : String) : Option Options :=
  match flag with
  | .deniedLabel => some { o with deniedLabels := o.deniedLabels ++ [value] }
  | .manifest => (path? value).map fun path => { o with manifests := o.manifests ++ [path] }
  | .levelFilter =>
    (once? o.levelFilter (Severity.ofName? value)).map fun v => { o with levelFilter := v }
  | .color => (once? o.color (ColorChoice.ofName? value)).map fun v => { o with color := v }
  | .config => (once? o.config (path? value)).map fun v => { o with config := v }
  | .recursive | .verbose | .version | .help => none

/-- How far reading has come: what is known with a flag that waits for its value, or an answer. -/
inductive Progress where
  | more (options : Options) (waiting : Option Flag)
  | answer (request : Request)

/-- Takes a flag without a value. -/
def setSwitch? (o : Options) (flag : Flag) : Option Progress :=
  match flag with
  | .recursive => if o.recursive then none else some (.more { o with recursive := true } none)
  | .verbose => if o.verbose then none else some (.more { o with verbose := true } none)
  | .version => some (.answer .version)
  | .help => some (.answer .help)
  | _ => none

/-- A flag with its full name; its value may stand behind an equals sign. -/
def long? (o : Options) (body : List Char) : Option Progress := do
  let flag ← Flag.ofLong? (String.ofList (body.takeWhile (· ≠ '=')))
  match body.dropWhile (· ≠ '='), flag.takesValue with
  | _ :: value, true => (o.setValue? flag (String.ofList value)).map (.more · none)
  | _ :: _, false => none
  | [], true => some (.more o (some flag))
  | [], false => o.setSwitch? flag

/-- Flags with their letters. The first one that takes a value has the rest as its value, behind an
equals sign or not. -/
def short? (o : Options) : List Char → Option Progress
  | [] => some (.more o none)
  | c :: rest => do
    let flag ← Flag.ofShort? c
    if flag.takesValue then
      match rest with
      | [] => some (.more o (some flag))
      | '=' :: value => (o.setValue? flag (String.ofList value)).map (.more · none)
      | value => (o.setValue? flag (String.ofList value)).map (.more · none)
    else
      match ← o.setSwitch? flag with
      | .more o _ => o.short? rest
      | .answer request => some (.answer request)

/-- Whether an argument can only be a flag. -/
def isFlag (argument : String) : Bool :=
  argument.startsWith "-" && argument ≠ "-"

/-- One argument that is not a value. All arguments are flags. -/
def argument? (o : Options) (argument : String) : Option Progress :=
  match argument.toList with
  | '-' :: '-' :: body => o.long? body
  | '-' :: c :: body => o.short? (c :: body)
  | _ => none

/-- Reads arguments up to the end; nothing may stand behind two dashes. -/
def readFrom (o : Options) (waiting : Option Flag) : List String → Option Request
  | [] => if waiting.isSome then none else some (.run o)
  | argument :: rest =>
    match waiting with
    | some flag =>
      if isFlag argument then none
      else do
        let o ← o.setValue? flag argument
        o.readFrom none rest
    | none =>
      if argument = "--" then (if rest.isEmpty then some (.run o) else none)
      else
        match o.argument? argument with
        | none => none
        | some (.answer request) => some request
        | some (.more o waiting) => o.readFrom waiting rest

/-- What the options change in settings. -/
def overrides (o : Options) : Except SettingsError Overrides := do
  let denied ← DeniedLabels.readFlags o.deniedLabels
  pure {
    levelFilter := o.levelFilter
    color := o.color
    verbose := if o.verbose then some true else none
    recursive := if o.recursive then some true else none
    deniedLabels := denied
    manifests := o.manifests }

end Options

/-- What arguments ask for, if they make sense. -/
def Request.read? (arguments : List String) : Option Request :=
  Options.readFrom {} none arguments

end QueryLint
