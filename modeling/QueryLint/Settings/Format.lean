import QueryLint.Json
import QueryLint.Settings.Basic
import QueryLint.Yaml.Value

/-! Settings as they are written in files.

What is a setting is the same in every format; a format only tells how the parts of settings are
read from its values. Fields that are missing have their defaults, and unknown fields are left
alone. -/

set_option autoImplicit false

namespace QueryLint

/-- How parts of settings are read from values of a type. -/
structure Format (α : Type) where
  /-- The fields of a record, given their names in order. -/
  fields? : List String → α → Option (List (String × α))
  /-- The entries of a map. -/
  entries? : α → Option (List (String × α))
  items? : α → Option (List α)
  text? : α → Option String
  bool? : α → Option Bool
  /-- The name of one of several choices. -/
  choice? : α → Option String

namespace Format

variable {α : Type}

/-- What a field gives, or a default when it is missing; it must not be there twice. -/
def field? {β : Type} (fields : List (String × α)) (name : String) (default : β)
    (read : α → Option β) : Option β :=
  match fields.filter (·.1 = name) with
  | [] => some default
  | [(_, value)] => read value
  | _ => none

def texts? (f : Format α) (value : α) : Option (List String) := do
  let items ← f.items? value
  items.mapM f.text?

/-- Labels with their patterns; of two entries for one label the last counts. -/
def labels? (f : Format α) (value : α) : Option LabelMap := do
  let entries ← f.entries? value
  let entries ← entries.mapM fun (label, value) => (f.text? value).map (label, ·)
  some (LabelMap.insertAll {} entries)

def output? (f : Format α) (value : α) : Option OutputSettings := do
  let fields ← f.fields? ["color", "verbose"] value
  let color ← field? fields "color" .auto fun v => (f.choice? v).bind ColorChoice.ofName?
  let verbose ← field? fields "verbose" false f.bool?
  some ⟨color, verbose⟩

def settings? (f : Format α) (value : α) : Option Settings := do
  let fields ← f.fields?
    ["level_filter", "recursive", "manifests", "denied_labels", "output"] value
  let levelFilter ← field? fields "level_filter" .error fun v =>
    (f.choice? v).bind Severity.ofName?
  let recursive ← field? fields "recursive" false f.bool?
  let manifests ← field? fields "manifests" [] f.texts?
  let deniedLabels ← field? fields "denied_labels" {} f.labels?
  let output ← field? fields "output" {} f.output?
  some { levelFilter, recursive, manifests, deniedLabels, output }

end Format

namespace Json

/-- Entries whose names have characters. -/
def named? (entries : List (Option String × Json)) : Option (List (String × Json)) :=
  entries.mapM fun (name, value) => name.map (·, value)

/-- A record may also be an array of its first fields, and a choice an object with nothing in its
only entry. -/
def format : Format Json where
  fields? names
    | .object entries => named? entries
    | .array items => if names.length < items.length then none else some (names.zip items)
    | _ => none
  entries?
    | .object entries => named? entries
    | _ => none
  items?
    | .array items => some items
    | _ => none
  text?
    | .string text => text
    | _ => none
  bool?
    | .bool b => some b
    | _ => none
  choice?
    | .string text => text
    | .object [(name, .null)] => name
    | _ => none

end Json

namespace Yaml

/-- A node, or what it is an alias of. -/
def Document.target (d : Document) : Node → Node
  | .alias n => (d.content? n).getD .empty
  | node => node

/-- Whether nothing is written. -/
def Node.isBlank : Node → Bool
  | .scalar _ _ text style => text = "" && style = .plain
  | _ => false

/-- The text of a scalar, whatever it means. -/
def Document.text? (d : Document) (node : Node) : Option String :=
  match d.target node with
  | .scalar _ _ text _ => some text
  | _ => none

def Document.entries? (d : Document) (node : Node) : Option (List (String × Node)) :=
  match d.target node with
  | .mapping _ _ entries => entries.mapM fun (key, value) => (d.text? key).map (·, value)
  | node => if node.isBlank then some [] else none

/-- Scalars are taken as they are written, and where nothing is written collections are empty. A
truth value is not quoted, and a choice may be a local tag with nothing behind it. -/
def Document.format (d : Document) : Format Node where
  fields? _ := d.entries?
  entries? := d.entries?
  items? node :=
    match d.target node with
    | .sequence _ _ items => some items
    | node => if node.isBlank then some [] else none
  text? := d.text?
  bool? node :=
    match d.target node with
    | .scalar _ tag text style =>
      if style = .plain || (style = .literal && tag = some "tag:yaml.org,2002:bool") then
        Meaning.bool? text
      else none
    | _ => none
  choice? node :=
    match d.target node with
    | .scalar _ tag text style =>
      match Value.localTag? tag with
      | none => some text
      | some name =>
        if style = .plain && (text = "" || Meaning.isNull text) then some name else none
    | _ => none

end Yaml

namespace Settings

def ofJson? (text : String) : Option Settings := do
  let value ← Json.parse? text
  Json.format.settings? value

/-- Settings from a text with at most one document; none at all is the same as an empty one. -/
def ofYaml? (text : String) : Option Settings :=
  let stream := Yaml.Stream.ofText text
  if !stream.sound then none
  else match stream.documents with
  | [] => some {}
  | [d] => d.format.settings? d.root
  | _ => none

end Settings

end QueryLint
