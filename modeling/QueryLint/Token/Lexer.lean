import QueryLint.Text.Quoted
import QueryLint.Text.Utf8
import QueryLint.Token

/-! Cutting a query text into tokens.

Each step looks at the first character that is neither blank nor in a comment, decides how many
characters belong together and goes on behind them. A character that starts no token, and a string
that its line does not close, are faults; scanning goes on after them, so that all are found. -/

set_option autoImplicit false

namespace QueryLint.Token

open Text (Span byteSize)

/-- Space, tab, newline, form feed and carriage return. -/
def isSpace (c : Char) : Bool :=
  c = ' ' || c = '\t' || c = '\n' || c = '\x0c' || c = '\r'

def startsIdentifier (c : Char) : Bool :=
  c.isAlpha || c = '_'

def continuesIdentifier (c : Char) : Bool :=
  startsIdentifier c || c.isDigit || c = ':'

def isHexDigit (c : Char) : Bool :=
  c.isDigit || ('a' ≤ c && c ≤ 'f') || ('A' ≤ c && c ≤ 'F')

/-- How many characters in front satisfy a test. -/
def countWhile (test : Char → Bool) (cs : List Char) : Nat :=
  (cs.takeWhile test).length

theorem countWhile_le (test : Char → Bool) (cs : List Char) : countWhile test cs ≤ cs.length :=
  (List.takeWhile_prefix (l := cs) test).length_le

/-- Length of a unit that `rest` follows: a letter directly behind it makes it no unit. -/
def unitBefore (length : Nat) : List Char → Nat
  | [] => length
  | c :: _ => if startsIdentifier c then 0 else length

/-- Length of the duration unit in front, zero if there is none. -/
def unitLength : List Char → Nat
  | 'm' :: 's' :: rest => unitBefore 2 rest
  | 's' :: rest | 'm' :: rest | 'h' :: rest | 'd' :: rest | 'w' :: rest | 'y' :: rest =>
    unitBefore 1 rest
  | _ => 0

/-- Length of the longest run of digits with a unit. -/
def durationLength (cs : List Char) : Nat :=
  let digits := countWhile Char.isDigit cs
  let unit := unitLength (cs.drop digits)
  if _h : 0 < digits ∧ 0 < unit then
    digits + unit + durationLength (cs.drop (digits + unit))
  else 0
  termination_by cs.length
  decreasing_by
    have := countWhile_le Char.isDigit cs
    simp only [List.length_drop]
    omega

/-- Length of the exponent in front, zero if no digit follows its sign. -/
def exponentLength : List Char → Nat
  | c :: rest =>
    if c = 'e' || c = 'E' then
      let sign := match rest with
        | '+' :: _ | '-' :: _ => 1
        | _ => 0
      let digits := countWhile Char.isDigit (rest.drop sign)
      if digits = 0 then 0 else 1 + sign + digits
    else 0
  | [] => 0

/-- Length of the point in front and the digits behind it. -/
def fractionLength : List Char → Nat
  | '.' :: rest => 1 + countWhile Char.isDigit rest
  | _ => 0

/-- Digits with an optional fraction and an optional exponent. -/
def decimalLength (cs : List Char) : Nat :=
  let whole := countWhile Char.isDigit cs
  let mantissa := whole + fractionLength (cs.drop whole)
  mantissa + exponentLength (cs.drop mantissa)

/-- Length of a hexadecimal number in front, zero if there is none. -/
def hexLength : List Char → Nat
  | '0' :: x :: rest =>
    let digits := countWhile isHexDigit rest
    if (x = 'x' || x = 'X') && 0 < digits then 2 + digits else 0
  | _ => 0

/-- Kind and length of the number or duration in front. -/
def numeral (cs : List Char) : Kind × Nat :=
  let digits := countWhile Char.isDigit cs
  if 0 < hexLength cs then (.number, hexLength cs)
  else if 0 < digits && 0 < unitLength (cs.drop digits) then (.duration, durationLength cs)
  else (.number, decimalLength cs)

/-- Whether a string is closed, and how many characters it has behind the opening quote.
A backslash guards the next character, except between backquotes, where lines may also end. -/
def stringLength (quote : Char) : List Char → Bool × Nat
  | [] => (false, 0)
  | c :: rest =>
    if c = '\\' && quote != '\x60' then
      match rest with
      | [] => (false, 1)
      | _ :: rest =>
        let (closed, n) := stringLength quote rest
        (closed, n + 2)
    else if c = '\n' && quote != '\x60' then (false, 1)
    else if c = quote then (true, 1)
    else
      let (closed, n) := stringLength quote rest
      (closed, n + 1)

/-- Why characters are no token. -/
inductive Fault where
  | unexpectedCharacter (c : Char)
  | unterminatedString
  deriving DecidableEq, Repr

def Fault.message : Fault → String
  | .unexpectedCharacter c => s!"unexpected character: '{Text.asciiChar c}'"
  | .unterminatedString => "unterminated quoted string"

/-- What the characters in front are: a token, or a fault. -/
inductive Shape where
  | token (kind : Kind)
  | fault (cause : Fault)
  deriving DecidableEq, Repr

/-- A token of two characters when the second is the given one, of one otherwise. -/
def pair (second : Char) (rest : List Char) (both single : Shape) : Shape × Nat :=
  if rest.head? = some second then (both, 1) else (single, 0)

/-- What starts with `c`, and how many characters of `rest` belong to it. Inside brackets, where
`depth` is positive, a colon never starts a name. -/
def shape (depth : Nat) (c : Char) (rest : List Char) : Shape × Nat :=
  match c with
  | '(' => (.token .leftParen, 0)
  | ')' => (.token .rightParen, 0)
  | '\x7b' => (.token .leftBrace, 0)
  | '\x7d' => (.token .rightBrace, 0)
  | '[' => (.token .leftBracket, 0)
  | ']' => (.token .rightBracket, 0)
  | ',' => (.token .comma, 0)
  | '@' => (.token .at, 0)
  | '+' => (.token .add, 0)
  | '-' => (.token .sub, 0)
  | '*' => (.token .mul, 0)
  | '/' => (.token .div, 0)
  | '%' => (.token .mod, 0)
  | '^' => (.token .pow, 0)
  | '=' =>
    if rest.head? = some '=' then (.token .equal, 1)
    else pair '~' rest (.token .regexMatch) (.token .assign)
  | '!' =>
    if rest.head? = some '=' then (.token .notEqual, 1)
    else pair '~' rest (.token .regexNoMatch) (.fault (.unexpectedCharacter '!'))
  | '<' => pair '=' rest (.token .lessEqual) (.token .less)
  | '>' => pair '=' rest (.token .greaterEqual) (.token .greater)
  | _ =>
    if c = ':' && (0 < depth || !rest.head?.any startsIdentifier) then (.token .colon, 0)
    else if c = '"' || c = '\'' || c = '\x60' then
      let (closed, n) := stringLength c rest
      (if closed then .token .string else .fault .unterminatedString, n)
    else if c.isDigit || (c = '.' && rest.head?.any Char.isDigit) then
      let (kind, n) := numeral (c :: rest)
      (.token kind, n - 1)
    else if startsIdentifier c || c = ':' then
      (.token .identifier, countWhile continuesIdentifier rest)
    else (.fault (.unexpectedCharacter c), 0)

/-- Bracket depth behind a token. -/
def depthAfter (depth : Nat) : Shape → Nat
  | .token .leftBracket => depth + 1
  | .token .rightBracket => depth - 1
  | _ => depth

/-- A token or a fault, with its place. -/
inductive Item where
  | token (token : Token)
  | fault (cause : Fault) (span : Span)
  deriving DecidableEq, Repr

def Item.ofShape (text : List Char) (span : Span) : Shape → Item
  | .token kind => .token ⟨kind, String.ofList text, span⟩
  | .fault cause => .fault cause span

def Item.token? : Item → Option Token
  | .token t => some t
  | .fault .. => none

def Item.fault? : Item → Option (Fault × Span)
  | .token _ => none
  | .fault cause span => some (cause, span)

/-- All items of a text that starts at byte `offset` and inside `depth` brackets. -/
def scan (depth offset : Nat) : List Char → List Item
  | [] => []
  | c :: rest =>
    if isSpace c then scan depth (offset + 1) rest
    else if c = '#' then
      scan depth (offset + 1 + byteSize (rest.takeWhile (· ≠ '\n'))) (rest.dropWhile (· ≠ '\n'))
    else
      let (kind, n) := shape depth c rest
      let text := c :: rest.take n
      let stop := offset + byteSize text
      .ofShape text ⟨offset, stop⟩ kind :: scan (depthAfter depth kind) stop (rest.drop n)
  termination_by cs => cs.length
  decreasing_by
    · simp
    · have := List.dropWhile_suffix (l := rest) (fun c : Char => decide (c ≠ '\n'))
      have := this.length_le
      simp only [List.length_cons]
      omega
    · simp only [List.length_drop, List.length_cons]
      omega

/-- The items of a text. -/
def items (source : String) : List Item :=
  scan 0 0 source.toList

/-- The empty token behind the last character. -/
def eof (source : String) : Token :=
  let size := byteSize source.toList
  ⟨.eof, "", ⟨size, size⟩⟩

/-- The tokens of a text, closed by the end of input, unless there are faults. -/
def tokenize (source : String) : Except (List (Fault × Span)) (List Token) :=
  match (items source).filterMap Item.fault? with
  | [] => .ok ((items source).filterMap Item.token? ++ [eof source])
  | faults => .error faults

end QueryLint.Token
