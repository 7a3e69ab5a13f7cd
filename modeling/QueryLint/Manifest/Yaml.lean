import QueryLint.Manifest.Basic
import QueryLint.Yaml.Value

/-! How a value becomes a manifest.

Everything that a manifest says about rules must have the right type; what else it says does not
matter. Tags do not matter either, except on an expression. -/

set_option autoImplicit false

namespace QueryLint

open Yaml (Value)

namespace Manifest

/-- The entries of a mapping, whose keys must be texts; nothing has no entries. -/
def fields? (value : Value) : Option (List (String × Value)) :=
  match value.untagged with
  | .null => some []
  | .mapping entries => entries.mapM fun (key, value) =>
    match key.untagged with
    | .string name => some (name, value)
    | _ => none
  | _ => none

/-- The value of a field, which must not be there twice. -/
def field? (fields : List (String × Value)) (name : String) : Option (Option Value) :=
  match fields.filter (·.1 = name) with
  | [] => some none
  | [(_, value)] => some (some value)
  | _ => none

/-- What a field gives, or a default when it is missing. -/
def fieldOr? {α : Type} (fields : List (String × Value)) (name : String)
    (default : α) (read : Value → Option α) : Option α := do
  match ← field? fields name with
  | none => some default
  | some value => read value

/-- The items of a sequence; nothing has no items. -/
def items? (value : Value) : Option (List Value) :=
  match value.untagged with
  | .null => some []
  | .sequence items => some items
  | _ => none

def text? (value : Value) : Option String :=
  match value.untagged with
  | .string s => some s
  | _ => none

/-- What a value gives, unless it is nothing. -/
def optional? {α : Type} (read : Value → Option α) : Value → Option (Option α)
  | .null => some none
  | value => (read value).map some

/-- An expression; of a number beyond 64 bits with a sign the nearest double is taken. -/
def expr? : Value → Option RuleText
  | .integer n =>
    if n < 0x8000000000000000 then some (.int (Int64.ofInt n))
    else some (.float (Number.Double.ofNat n.toNat))
  | .float x => some (.float x)
  | .string s => some (.text s)
  | _ => none

def rule? (value : Value) : Option RuleEntry := do
  let fields ← fields? value
  let record ← fieldOr? fields "record" none (optional? text?)
  let alert ← fieldOr? fields "alert" none (optional? text?)
  let expr ← fieldOr? fields "expr" none (optional? expr?)
  some ⟨record, alert, expr⟩

def group? (value : Value) : Option RuleGroup := do
  let fields ← fields? value
  let name ← fieldOr? fields "name" "" text?
  let rules ← fieldOr? fields "rules" [] items?
  let rules ← rules.mapM rule?
  some ⟨name, rules⟩

def groups? (value : Value) : Option (List RuleGroup) := do
  let fields ← fields? value
  let groups ← fieldOr? fields "groups" [] items?
  groups.mapM group?

def ofValue? (value : Value) : Option Manifest := do
  let fields ← fields? value
  let kind ← fieldOr? fields "kind" none (optional? text?)
  let groups ← fieldOr? fields "spec" [] groups?
  some ⟨kind, groups⟩

def ofDocument (d : Yaml.Document) : Document :=
  match d.value? with
  | none => .faulty
  | some value =>
    if value.isNull then .empty
    else match ofValue? value with
    | none => .faulty
    | some manifest => .manifest manifest

/-- The decoder that the program comes with. A fault behind the last document that could be read is
a faulty document too. -/
@[reducible] def decoder : Decoder where
  documents text :=
    let stream := Yaml.Stream.ofText text
    stream.documents.map ofDocument ++ if stream.sound then [] else [.faulty]

end Manifest

end QueryLint
