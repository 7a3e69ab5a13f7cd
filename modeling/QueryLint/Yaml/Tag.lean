import QueryLint.Literal.Quoted
import QueryLint.Yaml.Cell

/-! Tags, and the directives in front of a document. -/

set_option autoImplicit false

namespace QueryLint.Yaml

/-- A tag as it is written: a handle that directives explain, and what follows it. A tag without a
handle stands for itself. -/
structure TagName where
  handle : String
  suffix : String
  deriving DecidableEq, Repr

inductive Directive where
  | version (major minor : Nat)
  | tag (handle expansion : String)
  deriving DecidableEq, Repr

namespace TagName

/-- An octet written as a percent sign and two hexadecimal digits. -/
def octet? (rest : List Cell) : Option (Nat × List Cell) := do
  if ahead rest = '%' then
    let high ← Literal.Quoted.hexDigit? (look 1 rest)
    let low ← Literal.Quoted.hexDigit? (look 2 rest)
    some (high * 16 + low, rest.drop 3)
  else none

/-- How many octets a character has, by its first one. -/
def octetCount? (first : Nat) : Option Nat :=
  if first < 0x80 then some 1
  else if 0xc0 ≤ first && first < 0xe0 then some 2
  else if 0xe0 ≤ first && first < 0xf0 then some 3
  else if 0xf0 ≤ first && first < 0xf8 then some 4
  else none

/-- A number of octets that continue a character. -/
def furtherOctets? : Nat → List Cell → Option (List Nat × List Cell)
  | 0, rest => some ([], rest)
  | n + 1, rest => do
    let (octet, behind) ← octet? rest
    if 0x80 ≤ octet && octet < 0xc0 then
      let (more, behind) ← furtherOctets? n behind
      some (octet :: more, behind)
    else none

/-- A character written as octets. -/
def escaped? (rest : List Cell) : Option (Char × List Cell) := do
  let (first, behind) ← octet? rest
  let count ← octetCount? first
  let (more, behind) ← furtherOctets? (count - 1) behind
  let octets : List UInt8 := (first :: more).map Nat.toUInt8
  let text := (String.fromUTF8? ⟨octets.toArray⟩).map String.toList
  some ((text.bind List.head?).getD '\ufffd', behind)

def isSuffixChar (verbatim : Bool) (c : Char) : Bool :=
  isNameChar c || ";/?:@&=+$.!~*'()".toList.contains c ||
    (verbatim && (c = ',' || c = '[' || c = ']'))

/-- The characters of a suffix; a verbatim one may have commas and brackets. -/
def suffixText (verbatim : Bool) (rest : List Cell) : Option (List Char × List Cell) :=
  match rest with
  | [] => some ([], [])
  | cell :: more =>
    if isSuffixChar verbatim cell.char then
      (suffixText verbatim more).map fun (text, behind) => (cell.char :: text, behind)
    else if cell.char = '%' then do
      let (c, behind) ← escaped? (cell :: more)
      let (text, behind) ← suffixText verbatim (within more behind)
      some (c :: text, behind)
    else some ([], cell :: more)
  termination_by rest.length
  decreasing_by
    · simp
    · exact Nat.lt_of_le_of_lt (length_within_le _ _) (by simp)

/-- An exclamation mark, a name, and a second exclamation mark if there is one. -/
def handleText? (rest : List Cell) : Option (List Char × List Cell) :=
  if ahead rest = '!' then
    let (name, behind) := spanText isNameChar rest.tail
    if ahead behind = '!' then some ('!' :: name ++ ['!'], behind.tail)
    else some ('!' :: name, behind)
  else none

/-- Whether a handle has both its exclamation marks. -/
def isClosed (handle : List Char) : Bool :=
  1 < handle.length && handle.getLast? = some '!'

/-- A tag between angle brackets. -/
def verbatim? (rest : List Cell) : Option (TagName × List Cell) := do
  let (suffix, behind) ← suffixText true (rest.drop 2)
  if suffix.isEmpty || ahead behind ≠ '>' then none
  else some (⟨"", String.ofList suffix⟩, behind.tail)

/-- A tag with a handle; what looks like an open handle belongs to the suffix. -/
def shorthand? (rest : List Cell) : Option (TagName × List Cell) := do
  let (handle, behind) ← handleText? rest
  let (suffix, behind) ← suffixText false behind
  if isClosed handle then
    if suffix.isEmpty then none
    else some (⟨String.ofList handle, String.ofList suffix⟩, behind)
  else
    let suffix := handle.tail ++ suffix
    if suffix.isEmpty then some (⟨"", "!"⟩, behind)
    else some (⟨"!", String.ofList suffix⟩, behind)

/-- A tag; behind it must be a gap, or a comma inside a flow collection. -/
def read? (flow : Bool) (rest : List Cell) : Option (TagName × List Cell) := do
  let (tag, behind) ← if look 1 rest = '<' then verbatim? rest else shorthand? rest
  if isGap (ahead behind) || (flow && ahead behind = ',') then some (tag, behind) else none

end TagName

namespace Directive

/-- A version number of at most nine digits. -/
def versionNumber? (rest : List Cell) : Option (Nat × List Cell) :=
  let (digits, behind) := spanText Char.isDigit rest
  if digits.isEmpty || 9 < digits.length then none
  else some (digits.foldl (fun n c => n * 10 + (c.toNat - '0'.toNat)) 0, behind)

def version? (rest : List Cell) : Option (Directive × List Cell) := do
  let (major, behind) ← versionNumber? (dropBlanks rest)
  if ahead behind = '.' then
    let (minor, behind) ← versionNumber? behind.tail
    some (.version major minor, behind)
  else none

def tag? (rest : List Cell) : Option (Directive × List Cell) := do
  let (handle, behind) ← TagName.handleText? (dropBlanks rest)
  if !(TagName.isClosed handle || handle = ['!']) || !isBlank (ahead behind) then none
  else
    let (expansion, behind) ← TagName.suffixText true (dropBlanks behind)
    if expansion.isEmpty || !isGap (ahead behind) then none
    else some (.tag (String.ofList handle) (String.ofList expansion), behind)

/-- A directive behind its percent sign, up to the end of its line. -/
def read? (rest : List Cell) : Option (Directive × List Cell) := do
  let (name, behind) := spanText isNameChar rest
  if !isGap (ahead behind) then none
  else
    let (directive, behind) ←
      if name = ['Y', 'A', 'M', 'L'] then version? behind
      else if name = ['T', 'A', 'G'] then tag? behind
      else none
    let behind ← dropLineEnd? behind
    some (directive, behind)

end Directive

end QueryLint.Yaml
