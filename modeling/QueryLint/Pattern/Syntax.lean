import QueryLint.Pattern.Error

/-! Patterns as written. Extents are kept where a later step can still reject the part. -/

set_option autoImplicit false

namespace QueryLint.Pattern

inductive Flag where
  | caseInsensitive | multiLine | dotAll | swapGreed | unicode | crlf | extended
  deriving DecidableEq, Repr

/-- One step of a flag list: a flag, or the sign that clears those behind it. -/
inductive FlagItem where
  | flag (flag : Flag)
  | negation
  deriving DecidableEq, Repr

/-- A character and how it was written; `byte` marks two hexadecimal digits, which name a byte
where Unicode is off. -/
structure Literal where
  char : Char
  extent : Extent
  byte : Bool := false
  deriving DecidableEq, Repr

inductive Assertion where
  | startLine | endLine | startText | endText
  | wordBoundary | notWordBoundary
  | wordStart | wordEnd | wordStartHalf | wordEndHalf
  deriving DecidableEq, Repr

inductive PerlClass where
  | digit | space | word
  deriving DecidableEq, Repr

inductive AsciiClass where
  | alnum | alpha | ascii | blank | cntrl | digit | graph | lower | print | punct | space | upper
  | word | xdigit
  deriving DecidableEq, Repr

/-- Name of a Unicode property, alone or with a value. -/
inductive PropertyQuery where
  | named (name : String)
  | valued (name value : String)
  deriving DecidableEq, Repr

inductive SetOperator where
  | intersection | difference | symmetricDifference
  deriving DecidableEq, Repr

/-- A class that stands for itself, inside brackets or out. -/
inductive ClassEscape where
  | perl (kind : PerlClass) (negated : Bool) (extent : Extent)
  | property (query : PropertyQuery) (negated : Bool) (extent : Extent)
  deriving DecidableEq, Repr

/-- What stands between the brackets of a class. -/
inductive ClassSet where
  | empty
  | literal (literal : Literal)
  | range (first last : Literal)
  | ascii (kind : AsciiClass) (negated : Bool) (extent : Extent)
  | escape (escape : ClassEscape)
  | bracketed (negated : Bool) (extent : Extent) (inner : ClassSet)
  | union (left right : ClassSet)
  | combined (operator : SetOperator) (left right : ClassSet)
  deriving DecidableEq, Repr

inductive Syntax where
  | empty
  | flags (items : List FlagItem)
  | literal (literal : Literal)
  | dot (extent : Extent)
  | assertion (kind : Assertion)
  | escape (escape : ClassEscape)
  | bracketed (negated : Bool) (extent : Extent) (inner : ClassSet)
  | repeated (inner : Syntax) (least : Nat) (most : Option Nat)
  | group (flags : List FlagItem) (inner : Syntax)
  | either (left right : Syntax)
  | sequence (first second : Syntax)
  deriving DecidableEq, Repr

/-- Whether a repetition operator may follow. -/
def Syntax.isRepeatable : Syntax → Bool
  | .empty | .flags _ => false
  | _ => true

end QueryLint.Pattern
