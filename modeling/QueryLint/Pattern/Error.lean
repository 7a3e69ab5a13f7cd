import QueryLint.Text.Place

/-! Why a text is no pattern, and the report that shows where. -/

set_option autoImplicit false

namespace QueryLint.Pattern

open Text (Place)

/-- A part of the pattern text, from the first place up to the second. -/
structure Extent where
  start : Place
  stop : Place
  deriving DecidableEq, Repr

inductive Fault where
  | classEscapeInvalid
  | classRangeInvalid
  | classRangeLiteral
  | classUnclosed
  | decimalInvalid
  | countMissing
  | countInvalid
  | countUnclosed
  | repetitionMissing
  | hexEmpty
  | hexInvalid
  | hexInvalidDigit
  | escapeUnfinished
  | escapeUnrecognized
  | flagDangling
  | flagDuplicate
  | flagRepeatedNegation
  | flagUnfinished
  | flagUnrecognized
  | nameDuplicate
  | nameEmpty
  | nameInvalid
  | nameUnclosed
  | groupUnclosed
  | groupUnopened
  | boundaryUnclosed
  | boundaryUnrecognized
  | boundaryUnfinished
  | unicodeClassInvalid
  | backreference
  | lookAround
  | unicodeNotAllowed
  | invalidUtf8
  | propertyNotFound
  | propertyValueNotFound
  /-- The pattern is well formed, but asks for too many repetitions. -/
  | tooLarge
  deriving DecidableEq, Repr

def Fault.message : Fault → String
  | .classEscapeInvalid => "invalid escape sequence found in character class"
  | .classRangeInvalid => "invalid character class range, the start must be <= the end"
  | .classRangeLiteral => "invalid range boundary, must be a literal"
  | .classUnclosed => "unclosed character class"
  | .decimalInvalid => "decimal literal invalid"
  | .countMissing => "repetition quantifier expects a valid decimal"
  | .countInvalid => "invalid repetition count range, the start must be <= the end"
  | .countUnclosed => "unclosed counted repetition"
  | .repetitionMissing => "repetition operator missing expression"
  | .hexEmpty => "hexadecimal literal empty"
  | .hexInvalid => "hexadecimal literal is not a Unicode scalar value"
  | .hexInvalidDigit => "invalid hexadecimal digit"
  | .escapeUnfinished => "incomplete escape sequence, reached end of pattern prematurely"
  | .escapeUnrecognized => "unrecognized escape sequence"
  | .flagDangling => "dangling flag negation operator"
  | .flagDuplicate => "duplicate flag"
  | .flagRepeatedNegation => "flag negation operator repeated"
  | .flagUnfinished => "expected flag but got end of regex"
  | .flagUnrecognized => "unrecognized flag"
  | .nameDuplicate => "duplicate capture group name"
  | .nameEmpty => "empty capture group name"
  | .nameInvalid => "invalid capture group character"
  | .nameUnclosed => "unclosed capture group name"
  | .groupUnclosed => "unclosed group"
  | .groupUnopened => "unopened group"
  | .boundaryUnclosed =>
    "special word boundary assertion is either unclosed or contains an invalid character"
  | .boundaryUnrecognized =>
    "unrecognized special word boundary assertion, valid choices are: start, end, start-half " ++
    "or end-half"
  | .boundaryUnfinished =>
    "found either the beginning of a special word boundary or a bounded repetition on a \\b " ++
    "with an opening brace, but no closing brace"
  | .unicodeClassInvalid => "invalid Unicode character class"
  | .backreference => "backreferences are not supported"
  | .lookAround => "look-around, including look-ahead and look-behind, is not supported"
  | .unicodeNotAllowed => "Unicode not allowed here"
  | .invalidUtf8 => "pattern can match invalid UTF-8"
  | .propertyNotFound => "Unicode property not found"
  | .propertyValueNotFound => "Unicode property value not found"
  | .tooLarge => "Compiled regex exceeds size limit of 10485760 bytes."

/-- A fault, where it is, and the earlier part it conflicts with, if any. -/
structure Error where
  pattern : String
  extent : Extent
  earlier : Option Extent := none
  fault : Fault
  deriving DecidableEq, Repr

namespace Error

/-- The parts to mark, in the order of the text. -/
def extents (e : Error) : List Extent :=
  match e.earlier with
  | none => [e.extent]
  | some other =>
    let before := other.start.line < e.extent.start.line ||
      (other.start.line == e.extent.start.line && other.start.column ≤ e.extent.start.column)
    if before then [other, e.extent] else [e.extent, other]

/-- Marks from column `at` on: one caret for each character of an extent, and at least one. -/
def marks (column : Nat) : List Extent → List Char
  | [] => []
  | x :: rest =>
    let width := max 1 (x.stop.column - x.start.column)
    List.replicate (x.start.column - column) ' ' ++ List.replicate width '^' ++
      marks (max column x.start.column + width) rest

/-- A line of the pattern behind its margin, and the marks under it. -/
def shownLine (margin : List Char) (number : Nat) (line : List Char) (extents : List Extent) :
    List Char :=
  let here := extents.filter fun x => x.start.line == x.stop.line && x.start.line == number
  let notes := if here.isEmpty then [] else
    List.replicate margin.length ' ' ++ marks 0 here ++ ['\n']
  margin ++ line ++ '\n' :: notes

/-- The number of a line, as wide as the widest. -/
def lineMargin (width number : Nat) : List Char :=
  let digits := Nat.toDigits 10 number
  List.replicate (width - digits.length) ' ' ++ digits ++ [':', ' ']

def numberedLines (width number : Nat) (extents : List Extent) : List (List Char) → List Char
  | [] => []
  | line :: rest =>
    shownLine (lineMargin width number) number line extents ++
      numberedLines width (number + 1) extents rest

/-- Drops the carriage return before a newline. -/
def chomp (line : List Char) : List Char :=
  if line.getLast? = some '\r' then line.dropLast else line

/-- Where an extent of several lines begins and ends. -/
def longExtent (x : Extent) : String :=
  s!"on line {x.start.line} (column {x.start.column + 1}) through line {x.stop.line} " ++
    s!"(column {x.stop.column})\n"

/-- The report: the pattern, marks under the fault, and what is wrong. Lines are numbered when
there are several, and an extent over several lines is described in words. Of a pattern that is too
large no part is to blame. -/
def message (e : Error) : String :=
  let lines := Text.lines e.pattern.toList
  if e.fault = .tooLarge then e.fault.message
  else if lines.length ≤ 1 then
    "regex parse error:\n" ++
      String.ofList (shownLine [' ', ' ', ' ', ' '] 1 e.pattern.toList e.extents) ++
      "error: " ++ e.fault.message
  else
    let width := (Nat.toDigits 10 lines.length).length
    -- A newline at the very end opens a line that is not shown.
    let shown := if lines.getLast? = some [] then lines.dropLast else lines
    let chomped := shown.dropLast.map chomp ++
      (shown.drop (shown.length - 1)).map (if shown.length < lines.length then chomp else id)
    let rule := String.ofList (List.replicate 79 '~') ++ "\n"
    "regex parse error:\n" ++ rule ++ String.ofList (numberedLines width 1 e.extents chomped) ++
      rule ++ String.join ((e.extents.filter fun x => x.start.line != x.stop.line).map longExtent) ++
      "error: " ++ e.fault.message

end Error

end QueryLint.Pattern
