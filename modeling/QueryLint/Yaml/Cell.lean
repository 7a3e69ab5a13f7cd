/-! Characters of a document stream with their places.

Line breaks are made uniform here: carriage returns, alone or in front of a line feed, and next-line
characters become line feeds. The last cell of a stream is a NUL, which no stream may contain, so
readers can always look at a cell and know where the stream ends. -/

set_option autoImplicit false

namespace QueryLint.Yaml

/-- A character, how many characters are in front of it, and its line and column. -/
structure Cell where
  char : Char
  index : Nat
  line : Nat
  column : Nat
  deriving DecidableEq, Repr

/-- Mark of the end of a stream. -/
def endMark : Char := '\x00'

/-- Byte order mark. -/
def orderMark : Char := '\ufeff'

/-- Characters that a stream may contain. -/
def isAllowed (c : Char) : Bool :=
  let n := c.toNat
  n = 0x09 || n = 0x0a || n = 0x0d || (0x20 ≤ n && n ≤ 0x7e) || n = 0x85 ||
    (0xa0 ≤ n && n ≤ 0xfffd) || 0x10000 ≤ n

def isBlank (c : Char) : Bool := c = ' ' || c = '\t'

/-- Line breaks, after they were made uniform. -/
def isBreak (c : Char) : Bool := c = '\n' || c = '\u2028' || c = '\u2029'

def isBreakOrEnd (c : Char) : Bool := isBreak c || c = endMark

/-- Characters that separate words, and the end of the stream. -/
def isGap (c : Char) : Bool := isBlank c || isBreakOrEnd c

/-- Characters of names: of anchors, directives and tag handles. -/
def isNameChar (c : Char) : Bool := c.isAlphanum || c = '_' || c = '-'

namespace Cell

/-- The cells of a text that starts at a place. -/
def cellsFrom (index line column : Nat) : List Char → List Cell
  | [] => [⟨endMark, index, line, column⟩]
  | '\r' :: '\n' :: cs => ⟨'\n', index, line, column⟩ :: cellsFrom (index + 2) (line + 1) 0 cs
  | c :: cs =>
    if c = '\r' || c = '\u0085' then
      ⟨'\n', index, line, column⟩ :: cellsFrom (index + 1) (line + 1) 0 cs
    else if isBreak c then ⟨c, index, line, column⟩ :: cellsFrom (index + 1) (line + 1) 0 cs
    else ⟨c, index, line, column⟩ :: cellsFrom (index + 1) line (column + 1) cs

end Cell

def cells (text : List Char) : List Cell := Cell.cellsFrom 0 0 0 text

/-- The character at a distance ahead. -/
def look (n : Nat) (rest : List Cell) : Char :=
  match rest[n]? with
  | some cell => cell.char
  | none => endMark

/-- The next character. -/
def ahead (rest : List Cell) : Char := look 0 rest

/-- Column of the next character. -/
def column (rest : List Cell) : Nat :=
  match rest with
  | [] => 0
  | cell :: _ => cell.column

/-- Whether three characters stand in front, by themselves at the beginning of a line. -/
def isMark (c : Char) (rest : List Cell) : Bool :=
  column rest = 0 && ahead rest = c && look 1 rest = c && look 2 rest = c && isGap (look 3 rest)

/-- Whether a line begins that separates documents. -/
def isDocumentMark (rest : List Cell) : Bool := isMark '-' rest || isMark '.' rest

/-- The characters in front that satisfy a predicate, and the cells behind them. -/
def spanText (p : Char → Bool) : List Cell → List Char × List Cell
  | [] => ([], [])
  | cell :: rest =>
    if p cell.char then
      let (text, more) := spanText p rest
      (cell.char :: text, more)
    else ([], cell :: rest)

/-- Drops blanks in front. -/
def dropBlanks (rest : List Cell) : List Cell := (spanText isBlank rest).2

/-- Drops the end of a line with its break: blanks and a comment, and nothing else. -/
def dropLineEnd? (rest : List Cell) : Option (List Cell) :=
  let behind := dropBlanks rest
  let behind := if ahead behind = '#' then (spanText (fun c => !isBreakOrEnd c) behind).2 else behind
  if isBreak (ahead behind) then some behind.tail
  else if ahead behind = endMark then some behind
  else none

/-- The tail of `rest` that is as long as `tail`. Readers only drop cells from the front, so for
what a reader returns this is the same list, and visibly no longer than `rest`. -/
def within (rest tail : List Cell) : List Cell :=
  rest.drop (rest.length - tail.length)

theorem length_within_le (rest tail : List Cell) : (within rest tail).length ≤ rest.length := by
  simp only [within, List.length_drop]
  omega

end QueryLint.Yaml
