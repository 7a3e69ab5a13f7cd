import QueryLint.Pattern.Property
import QueryLint.Pattern.Syntax

/-! Patterns with their flags worked in: sets of characters, conditions on the place, and the
operations that combine them. -/

set_option autoImplicit false

namespace QueryLint.Pattern

/-- A condition on the characters around a place; `unicode` tells which characters form words. -/
inductive Look where
  | start | stop
  | lineStart | lineEnd
  | crlfStart | crlfEnd
  | boundary (unicode : Bool)
  | notBoundary (unicode : Bool)
  | wordStart (unicode : Bool)
  | wordEnd (unicode : Bool)
  | wordStartHalf (unicode : Bool)
  | wordEndHalf (unicode : Bool)
  deriving DecidableEq, Repr

inductive Node where
  | empty
  | set (chars : CharSet)
  | look (condition : Look)
  | sequence (first second : Node)
  | either (left right : Node)
  | repeated (inner : Node) (least : Nat) (most : Option Nat)
  deriving Repr

structure Flags where
  caseInsensitive : Bool := false
  multiLine : Bool := false
  dotAll : Bool := false
  unicode : Bool := true
  crlf : Bool := false
  deriving DecidableEq, Repr

namespace Flags

def set (flags : Flags) (value : Bool) : Flag → Flags
  | .caseInsensitive => { flags with caseInsensitive := value }
  | .multiLine => { flags with multiLine := value }
  | .dotAll => { flags with dotAll := value }
  | .unicode => { flags with unicode := value }
  | .crlf => { flags with crlf := value }
  | .swapGreed | .extended => flags

/-- Applies a flag list; what stands behind the sign is cleared. -/
def apply (flags : Flags) (value : Bool) : List FlagItem → Flags
  | [] => flags
  | .negation :: rest => flags.apply false rest
  | .flag f :: rest => (flags.set value f).apply value rest

end Flags

namespace Node

/-- A fault with the part of the pattern it concerns. -/
abbrev Refusal := Fault × Extent

/-- Case closure and complement of a class, in characters or, where Unicode is off, in bytes;
a class of bytes must stay within ASCII. -/
def closeAndNegate (flags : Flags) (negated : Bool) (extent : Extent) (chars : CharSet) :
    Except Refusal CharSet :=
  if flags.unicode then
    let closed := if flags.caseInsensitive then chars.closeCase else chars
    .ok (if negated then closed.complement else closed)
  else
    let closed := if flags.caseInsensitive then chars.closeAsciiCase else chars
    let result := if negated then closed.byteComplement else closed
    if result.isAscii then .ok result else .error (.invalidUtf8, extent)

def escapeSet (flags : Flags) : ClassEscape → Except Refusal CharSet
  | .perl kind negated extent =>
    if flags.unicode then .ok (if negated then kind.set.complement else kind.set)
    else if negated then .error (.invalidUtf8, extent)
    else .ok kind.asciiSet
  | .property query negated extent =>
    if !flags.unicode then .error (.unicodeNotAllowed, extent)
    else match Property.lookup query with
      | .error fault => .error (fault, extent)
      | .ok chars => closeAndNegate flags negated extent chars

/-- The code of a literal in a class; a byte class has ASCII characters only. -/
def classCode (flags : Flags) (l : Literal) : Except Refusal Nat :=
  let n := l.char.toNat
  if flags.unicode || n < 0x80 then .ok n
  else if l.byte then .error (.invalidUtf8, l.extent)
  else .error (.unicodeNotAllowed, l.extent)

def classSet (flags : Flags) : ClassSet → Except Refusal CharSet
  | .empty => .ok []
  | .literal l => do
    let n ← classCode flags l
    pure (CharSet.single n)
  | .range first last => do
    let a ← classCode flags first
    let b ← classCode flags last
    pure [(a, b)]
  | .ascii kind negated extent => closeAndNegate flags negated extent kind.set
  | .escape e => escapeSet flags e
  | .bracketed negated extent inner => do
    let chars ← classSet flags inner
    closeAndNegate flags negated extent chars
  | .union left right => do
    let s ← classSet flags left
    let t ← classSet flags right
    pure (s.union t)
  | .combined operator left right => do
    let s ← classSet flags left
    let t ← classSet flags right
    let close (u : CharSet) : CharSet :=
      if !flags.caseInsensitive then u
      else if flags.unicode then u.closeCase else u.closeAsciiCase
    pure (match operator with
      | .intersection => (close s).intersect (close t)
      | .difference => (close s).difference (close t)
      | .symmetricDifference => (close s).symmetricDifference (close t))

/-- A literal outside a class. -/
def literal (flags : Flags) (l : Literal) : Except Refusal Node :=
  let single := CharSet.single l.char.toNat
  if flags.unicode then
    .ok (.set (if flags.caseInsensitive then single.closeCase else single))
  else if l.byte && 0x80 ≤ l.char.toNat then .error (.invalidUtf8, l.extent)
  else .ok (.set (if flags.caseInsensitive then single.closeAsciiCase else single))

def dotSet (flags : Flags) : CharSet :=
  if flags.dotAll then [(0, 0x10ffff)]
  else if flags.crlf then [(0, 0x09), (0x0b, 0x0c), (0x0e, 0x10ffff)]
  else [(0, 0x09), (0x0b, 0x10ffff)]

def assertion (flags : Flags) : Assertion → Look
  | .startLine => if !flags.multiLine then .start else if flags.crlf then .crlfStart else .lineStart
  | .endLine => if !flags.multiLine then .stop else if flags.crlf then .crlfEnd else .lineEnd
  | .startText => .start
  | .endText => .stop
  | .wordBoundary => .boundary flags.unicode
  | .notWordBoundary => .notBoundary flags.unicode
  | .wordStart => .wordStart flags.unicode
  | .wordEnd => .wordEnd flags.unicode
  | .wordStartHalf => .wordStartHalf flags.unicode
  | .wordEndHalf => .wordEndHalf flags.unicode

/-- Works the flags into a pattern; the flags behind it are returned, since a flag setting reaches
to the end of its group, over later alternatives too. -/
def ofSyntax (flags : Flags) : Syntax → Except Refusal (Node × Flags)
  | .empty => .ok (.empty, flags)
  | .flags items => .ok (.empty, flags.apply true items)
  | .literal l => do
    let node ← literal flags l
    pure (node, flags)
  | .dot extent =>
    if flags.unicode then .ok (.set (dotSet flags), flags) else .error (.invalidUtf8, extent)
  | .assertion kind => .ok (.look (assertion flags kind), flags)
  | .escape e => do
    let chars ← escapeSet flags e
    pure (.set chars, flags)
  | .bracketed negated extent inner => do
    let members ← classSet flags inner
    let chars ← closeAndNegate flags negated extent members
    pure (.set chars, flags)
  | .repeated inner least most => do
    let (node, flags) ← ofSyntax flags inner
    pure (.repeated node least most, flags)
  | .group items inner => do
    let (node, _) ← ofSyntax (flags.apply true items) inner
    pure (node, flags)
  | .either left right => do
    let (a, flags) ← ofSyntax flags left
    let (b, flags) ← ofSyntax flags right
    pure (.either a b, flags)
  | .sequence first second => do
    let (a, flags) ← ofSyntax flags first
    let (b, flags) ← ofSyntax flags second
    pure (.sequence a b, flags)

end Node

end QueryLint.Pattern
