import QueryLint.Text.Span

/-! Tokens of the query language. -/

set_option autoImplicit false

namespace QueryLint

open Text (Span)

namespace Token

inductive Kind where
  | identifier | number | duration | string
  | leftParen | rightParen | leftBrace | rightBrace | leftBracket | rightBracket
  | comma | colon | at
  | assign | equal | notEqual | regexMatch | regexNoMatch
  | less | lessEqual | greater | greaterEqual
  | add | sub | mul | div | mod | pow
  | eof
  deriving DecidableEq, Repr

/-- How messages name a kind of token. -/
def Kind.describe : Kind → String
  | .identifier => "identifier"
  | .number => "number"
  | .duration => "duration"
  | .string => "string"
  | .leftParen => "\"(\""
  | .rightParen => "\")\""
  | .leftBrace => "\"\x7b\""
  | .rightBrace => "\"\x7d\""
  | .leftBracket => "\"[\""
  | .rightBracket => "\"]\""
  | .comma => "\",\""
  | .colon => "\":\""
  | .at => "\"@\""
  | .assign => "\"=\""
  | .equal => "\"==\""
  | .notEqual => "\"!=\""
  | .regexMatch => "\"=~\""
  | .regexNoMatch => "\"!~\""
  | .less => "\"<\""
  | .lessEqual => "\"<=\""
  | .greater => "\">\""
  | .greaterEqual => "\">=\""
  | .add => "\"+\""
  | .sub => "\"-\""
  | .mul => "\"*\""
  | .div => "\"/\""
  | .mod => "\"%\""
  | .pow => "\"^\""
  | .eof => "end of input"

end Token

/-- A token with the characters it was cut from and where they stand. -/
structure Token where
  kind : Token.Kind
  text : String
  span : Span
  deriving DecidableEq, Repr

end QueryLint
