/-! Sets of code points written as text, under the names that patterns use for them.

Items are apart by blanks and their digits are hexadecimal: `61` is one code point, `61-7a` a
range, and `100-136/2` every second code point of a range from its first on. -/

set_option autoImplicit false

namespace QueryLint.Unicode

namespace Ranges

/-- Which number of an item is being read. -/
inductive Part where
  | first | last | step
  deriving DecidableEq, Repr

/-- An item as far as it has been read. -/
structure Item where
  part : Part := .first
  first : Nat := 0
  last : Nat := 0
  step : Nat := 1
  deriving DecidableEq, Repr

/-- Value of a lower-case hexadecimal digit. -/
def digit (c : Char) : Nat :=
  if c ≤ '9' then c.toNat - '0'.toNat else c.toNat - 'a'.toNat + 10

/-- One more digit of the number being read. -/
def Item.push (item : Item) (c : Char) : Item :=
  match item.part with
  | .first =>
    let n := item.first * 16 + digit c
    { item with first := n, last := n }
  | .last => { item with last := item.last * 16 + digit c }
  | .step => { item with step := item.step * 16 + digit c }

/-- The ranges an item stands for. -/
def Item.ranges (item : Item) : List (Nat × Nat) :=
  if item.step = 1 then [(item.first, item.last)]
  else (List.range ((item.last - item.first) / item.step + 1)).map fun k =>
    (item.first + k * item.step, item.first + k * item.step)

/-- The ranges of the item in front, continued by `text`, and of the items behind it. -/
def ofChars (item : Item) : (text : List Char) → List (Nat × Nat)
  | [] => item.ranges
  | c :: rest =>
    if c = ' ' then item.ranges ++ ofChars {} rest
    else if c = '-' then ofChars { item with part := .last, last := 0 } rest
    else if c = '/' then ofChars { item with part := .step, step := 0 } rest
    else ofChars (item.push c) rest

def ofText (text : String) : List (Nat × Nat) :=
  ofChars {} text.toList

end Ranges

/-- A set of code points with its names, lower-case and without separators. -/
structure NamedSet where
  names : List String
  lines : List String
  deriving Repr

namespace NamedSet

/-- First and last code point of each range. -/
def ranges (s : NamedSet) : List (Nat × Nat) :=
  s.lines.flatMap Ranges.ofText

/-- The ranges of the set with a name. -/
def lookup? (table : List NamedSet) (name : String) : Option (List (Nat × Nat)) :=
  (table.find? (·.names.contains name)).map ranges

end NamedSet

end QueryLint.Unicode
