import QueryLint.Number.Decimal
import QueryLint.Yaml.Node

/-! Values of nodes.

What a plain scalar means is seen from its text: nothing, a truth value, a number or, if it is none
of these, the text itself. Standard tags ask for one of these meanings, and local tags, which begin
with an exclamation mark, stay on the value. -/

set_option autoImplicit false

namespace QueryLint.Yaml

open Number (Double)

inductive Value where
  | null
  | bool (b : Bool)
  | integer (n : Int)
  | float (x : Double)
  | string (s : String)
  | sequence (items : List Value)
  | mapping (entries : List (Value × Value))
  | tagged (tag : String) (value : Value)
  deriving Repr

/-! Meanings of texts. -/

namespace Meaning

def isNull (text : String) : Bool :=
  text = "~" || text = "null" || text = "Null" || text = "NULL"

def bool? (text : String) : Option Bool :=
  if text = "true" || text = "True" || text = "TRUE" then some true
  else if text = "false" || text = "False" || text = "FALSE" then some false
  else none

/-- Number with digits in a base; there must be some. -/
def digits? (base : Nat) (cs : List Char) : Option Nat :=
  if cs.isEmpty then none
  else cs.foldlM (fun n c => do
    let d ← Literal.Quoted.hexDigit? c
    if d < base then some (n * base + d) else none) 0

/-- A sign in front, if there is one. -/
def splitSign : List Char → Bool × List Char
  | '-' :: cs => (true, cs)
  | '+' :: cs => (false, cs)
  | cs => (false, cs)

/-- A zero with further digits behind it is no number. -/
def isZeroPadded (cs : List Char) : Bool :=
  let (_, body) := splitSign cs
  1 < body.length && body.head? = some '0' && body.all Char.isDigit

/-- Magnitude of a whole number, in base ten or another one that the text names. -/
def magnitude? (body : List Char) : Option Nat :=
  match body with
  | '0' :: 'x' :: digits => digits? 16 digits
  | '0' :: 'o' :: digits => digits? 8 digits
  | '0' :: 'b' :: digits => digits? 2 digits
  | _ => if isZeroPadded body then none else digits? 10 body

/-- A whole number of up to 128 bits; one that needs more than 64 has no value. -/
inductive Whole where
  | value (n : Int)
  | tooLarge
  deriving DecidableEq, Repr

/-- A whole number; positive ones reach further than negative ones by one bit. -/
def whole? (text : String) : Option Whole := do
  let (negative, body) := splitSign text.toList
  let n ← magnitude? body
  if negative then
    if n ≤ 0x8000000000000000 then some (.value (-n))
    else if n ≤ 0x80000000000000000000000000000000 then some .tooLarge
    else none
  else if n < 0x10000000000000000 then some (.value n)
  else if n < 0x100000000000000000000000000000000 then some .tooLarge
  else none

/-- A number with a point or an exponent, if it is finite, or a name for one that is not. -/
def float? (text : String) : Option Double :=
  let (negative, body) := splitSign text.toList
  let word := String.ofList body
  if word = ".inf" || word = ".Inf" || word = ".INF" then
    some (if negative then Double.infinity.neg else Double.infinity)
  else if text = ".nan" || text = ".NaN" || text = ".NAN" then some Double.nan
  else (Number.Decimal.readSigned? text.toList).filter (·.isFinite)

/-- The value of a plain scalar without a tag. -/
def plain? (text : String) : Option Value :=
  if text = "" || isNull text then some .null
  else match bool? text with
  | some b => some (.bool b)
  | none =>
    match whole? text with
    | some (.value n) => some (.integer n)
    | some .tooLarge => none
    | none =>
      if isZeroPadded text.toList then some (.string text)
      else match float? text with
      | some x => some (.float x)
      | none => some (.string text)

/-- The value that a standard tag asks for. -/
def standard? (name text : String) : Option Value :=
  if name = "bool" then (bool? text).map .bool
  else if name = "int" then
    match whole? text with
    | some (.value n) => some (.integer n)
    | _ => none
  else if name = "float" then (float? text).map .float
  else if name = "null" then (if isNull text then some .null else none)
  else some (.string text)

end Meaning

namespace Value

/-! Equality: the entries of a mapping have no order, and numbers that are not numbers are equal. -/

def sameFloat (x y : Double) : Bool :=
  (x.isNaN && y.isNaN) || x == y || (x.magnitude == 0 && y.magnitude == 0)

mutual

def same : Value → Value → Bool
  | .null, .null => true
  | .bool a, .bool b => a == b
  | .integer m, .integer n => m == n
  | .float x, .float y => sameFloat x y
  | .string s, .string t => s == t
  | .sequence xs, .sequence ys => sameItems xs ys
  | .mapping xs, .mapping ys => xs.length == ys.length && entriesIn xs ys
  | .tagged s x, .tagged t y => s == t && same x y
  | _, _ => false

def sameItems : List Value → List Value → Bool
  | [], [] => true
  | x :: xs, y :: ys => same x y && sameItems xs ys
  | _, _ => false

def entriesIn : List (Value × Value) → List (Value × Value) → Bool
  | [], _ => true
  | (key, value) :: rest, others =>
    others.any (fun (k, v) => same key k && same value v) && entriesIn rest others

end

/-- The value without its tags. -/
def untagged : Value → Value
  | .tagged _ value => value.untagged
  | value => value

def isNull (v : Value) : Bool :=
  match v.untagged with
  | .null => true
  | _ => false

/-! Values of the nodes of a document. -/

/-- Prefix of the standard tags. -/
def standardTag : List Char := "tag:yaml.org,2002:".toList

/-- The value of a scalar whose local tag, if it has one, was already seen. -/
def ofScalar? (tag : Option String) (text : String) (style : ScalarStyle) : Option Value :=
  match tag with
  | none => if style = .plain then Meaning.plain? text else some (.string text)
  | some tag =>
    match standardTag.isPrefixOf tag.toList with
    | true => Meaning.standard? (String.ofList (tag.toList.drop standardTag.length)) text
    | false => some (.string text)

/-- The name of a local tag. -/
def localTag? (tag : Option String) : Option String :=
  match tag.map String.toList with
  | some ('!' :: name) => some (String.ofList name)
  | _ => none

/-- Puts a local tag on a value; its name must not be empty. -/
def withTag? (name : String) (value : Value) : Option Value :=
  if name = "" then none else some (.tagged name value)

/-- Reading values, with the number of aliases followed so far. -/
abbrev ReadM := StateT Nat Option

/-- A node, or what it is an alias of. Aliases must not be followed more often than a hundred times
the weight of the document. -/
def resolve (d : Document) : Node → ReadM Node
  | .alias n => do
    let followed ← getModify (· + 1)
    if d.weight * 100 < followed + 1 then failure
    else match d.content? n with
      | some node => pure node
      | none => failure
  | node => pure node

/-- Entries with no two keys the same. -/
def distinct (readOne : Node → ReadM Value) (seen : List (Value × Value)) :
    List (Node × Node) → ReadM (List (Value × Value))
  | [] => pure seen.reverse
  | (key, value) :: rest => do
    let key ← readOne key
    if seen.any (fun (k, _) => same k key) then failure
    else
      let value ← readOne value
      distinct readOne ((key, value) :: seen) rest

/-- The value of a node with no more than `depth` collections inside each other. -/
def read (d : Document) : (depth : Nat) → Node → ReadM Value
  | depth, node => do
    match ← resolve d node with
    | .alias _ => failure
    | .scalar _ tag text style =>
      match localTag? tag with
      | some name => do
        let value ← ofScalar? none text style
        withTag? name value
      | none => ofScalar? tag text style
    | .sequence _ tag items =>
      match depth with
      | 0 => failure
      | depth + 1 => do
        let values ← items.mapM (fun item => read d depth item)
        match localTag? tag with
        | some name => withTag? name (.sequence values)
        | none => pure (.sequence values)
    | .mapping _ tag entries =>
      match depth with
      | 0 => failure
      | depth + 1 => do
        let values ← distinct (fun node => read d depth node) [] entries
        match localTag? tag with
        | some name => withTag? name (.mapping values)
        | none => pure (.mapping values)
  termination_by structural depth => depth

end Value

/-- The value of a document, with at most 128 collections inside each other. -/
def Document.value? (d : Document) : Option Value :=
  ((Value.read d 128 d.root).run 0).map Prod.fst

end QueryLint.Yaml
