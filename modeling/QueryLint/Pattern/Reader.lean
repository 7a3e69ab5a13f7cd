import QueryLint.Literal.Quoted
import QueryLint.Number.Decimal
import QueryLint.Pattern.Syntax
import QueryLint.Unicode.Properties

/-! Reading a pattern text.

The text becomes a list of cells, characters with their places; every reader takes the cells in
front and returns the cells behind. The first fault met from the left is the one reported. -/

set_option autoImplicit false

namespace QueryLint.Pattern

open Text (Place)

namespace Reader

structure Cell where
  char : Char
  place : Place
  deriving Repr

/-- The cells of a text that starts at a place. -/
def cells (at_ : Place) : List Char → List Cell
  | [] => []
  | c :: cs => ⟨c, at_⟩ :: cells (at_.next c) cs

/-- The text being read and the place behind its last character. -/
structure Source where
  pattern : String
  stop : Place

/-- Place of the next character. -/
def Source.here (s : Source) (rest : List Cell) : Place :=
  match rest with
  | [] => s.stop
  | cell :: _ => cell.place

/-- Place behind the next character. -/
def Source.after (s : Source) (rest : List Cell) : Place :=
  match rest with
  | [] => s.stop
  | cell :: _ => cell.place.next cell.char

def Source.fail {α : Type} (s : Source) (extent : Extent) (fault : Fault) : Except Error α :=
  .error { pattern := s.pattern, extent := extent, fault := fault }

def Source.conflict {α : Type} (s : Source) (extent earlier : Extent) (fault : Fault) :
    Except Error α :=
  .error { pattern := s.pattern, extent := extent, earlier := some earlier, fault := fault }

/-- The empty extent in front of the next character. -/
def Source.point (s : Source) (rest : List Cell) : Extent :=
  ⟨s.here rest, s.here rest⟩

/-- The extent of the next character. -/
def Source.next (s : Source) (rest : List Cell) : Extent :=
  ⟨s.here rest, s.after rest⟩

/-- The tail of `rest` that is as long as `tail`. Readers only drop cells from the front, so for
what a reader returns this is the same list, and visibly no longer than `rest`. -/
def within (rest tail : List Cell) : List Cell :=
  rest.drop (rest.length - tail.length)

theorem length_within_le (rest tail : List Cell) : (within rest tail).length ≤ rest.length := by
  simp only [within, List.length_drop]
  omega

/-- Drops a comment up to and including its newline. -/
def dropComment : List Cell → List Cell
  | [] => []
  | cell :: rest => if cell.char = '\n' then rest else dropComment rest

theorem length_dropComment_le (rest : List Cell) : (dropComment rest).length ≤ rest.length := by
  induction rest with
  | nil => simp [dropComment]
  | cons cell rest ih =>
    simp only [dropComment]
    split
    · simp
    · simp only [List.length_cons]
      omega

/-- In extended mode, drops blanks and comments in front. -/
def skipBlank (extended : Bool) (rest : List Cell) : List Cell :=
  match rest with
  | [] => []
  | cell :: more =>
    if extended && Unicode.isBlank cell.char then skipBlank extended more
    else if extended && cell.char = '#' then skipBlank extended (dropComment more)
    else rest
  termination_by rest.length
  decreasing_by
    · simp
    · have := length_dropComment_le more
      simp only [List.length_cons]
      omega

theorem length_skipBlank_le (extended : Bool) (rest : List Cell) :
    (skipBlank extended rest).length ≤ rest.length := by
  fun_induction skipBlank extended rest with
  | case1 => simp
  | case2 cell more _ ih =>
    simp only [List.length_cons]
    omega
  | case3 cell more _ _ ih =>
    have := length_dropComment_le more
    simp only [List.length_cons]
    omega
  | case4 => simp

/-- Drops one character and what extended mode ignores behind it. -/
def advance (extended : Bool) (rest : List Cell) : List Cell :=
  skipBlank extended rest.tail

/-- In extended mode, the next character that is neither blank nor the first of a comment. -/
def peekBlank (comment : Bool) : List Cell → Option Char
  | [] => none
  | cell :: rest =>
    if Unicode.isBlank cell.char then peekBlank comment rest
    else if !comment && cell.char = '#' then peekBlank true rest
    else some cell.char

/-- The character behind the next one; in extended mode blanks in between do not count. -/
def peekSecond (extended : Bool) (rest : List Cell) : Option Char :=
  let plain := rest.tail.head?.map Cell.char
  if extended then (peekBlank false rest.tail).or plain else plain

/-- Whether the text in front is the given one. -/
def startsWith (word : List Char) (rest : List Cell) : Bool :=
  word.isPrefixOf (rest.map Cell.char)

/-! Numbers. -/

/-- Digits, which extended mode may separate, and the cells behind them. -/
def digits (extended : Bool) (rest : List Cell) : List Char × List Cell :=
  match rest with
  | [] => ([], [])
  | cell :: more =>
    if cell.char.isDigit then
      let (ds, tail) := digits extended (within more (skipBlank extended more))
      (cell.char :: ds, tail)
    else ([], rest)
  termination_by rest.length
  decreasing_by
    have := length_within_le more (skipBlank extended more)
    simp only [List.length_cons]
    omega

/-- The value of a counted repetition: blanks around the digits are always allowed. -/
def decimal (s : Source) (extended : Bool) (rest : List Cell) :
    Except Error Nat × List Cell :=
  let start := rest.dropWhile fun cell => Unicode.isBlank cell.char
  let (ds, behind) := digits extended start
  let extent : Extent := ⟨s.here start, s.here behind⟩
  let tail := skipBlank extended (behind.dropWhile fun cell => Unicode.isBlank cell.char)
  let value :=
    if ds.isEmpty then s.fail extent .countMissing
    else
      let n := Number.digitsValue ds
      if n < 0x100000000 then .ok n else s.fail extent .decimalInvalid
  (value, tail)

/-- Drops the question mark that makes a repetition lazy: it changes no language. -/
def dropLazy (rest : List Cell) : List Cell :=
  match rest with
  | cell :: more => if cell.char = '?' then more else rest
  | [] => []

/-- Least and greatest count of a counted repetition that opens in front. -/
def counts (s : Source) (extended : Bool) (rest : List Cell) :
    Except Error ((Nat × Option Nat) × List Cell) := do
  let start := s.here rest
  let unclosed {α : Type} (tail : List Cell) : Except Error α :=
    s.fail ⟨start, s.here tail⟩ .countUnclosed
  let inner := advance extended rest
  if inner.isEmpty then unclosed inner else
  let (least, afterLeast) := decimal s extended inner
  match afterLeast with
  | [] => unclosed afterLeast
  | separator :: _ =>
    let (range, tail) ←
      if separator.char ≠ ',' then
        let n ← least
        pure ((n, some n), afterLeast)
      else
        let second := advance extended afterLeast
        match second with
        | [] => unclosed second
        | cell :: _ =>
          let n ← least
          if cell.char ≠ '\x7d' then
            let (most, afterMost) := decimal s extended second
            let m ← most
            pure ((n, some m), afterMost)
          else pure ((n, none), second)
    match tail with
    | [] => unclosed tail
    | close :: behind =>
      if close.char ≠ '\x7d' then unclosed tail else
      let rest' := dropLazy (skipBlank extended behind)
      match range with
      | (n, some m) =>
        if m < n then s.fail ⟨start, s.here rest'⟩ .countInvalid else pure (range, rest')
      | _ => pure (range, rest')

/-! Escapes. -/

/-- The first `n` hexadecimal digits, one by one. -/
def hexDigits (s : Source) (extended : Bool) : Nat → List Cell → Except Error (List Char × List Cell)
  | 0, rest => pure ([], rest)
  | _ + 1, [] => s.fail (s.point []) .escapeUnfinished
  | n + 1, cell :: more => do
    if (Literal.Quoted.hexDigit? cell.char).isNone then
      s.fail (s.next (cell :: more)) .hexInvalidDigit
    else
      let (ds, tail) ← hexDigits s extended n (skipBlank extended more)
      pure (cell.char :: ds, tail)

/-- Hexadecimal digits up to a closing brace. -/
def bracedDigits (s : Source) (extended : Bool) (brace : Place) (rest : List Cell) :
    Except Error (List Char × List Cell) :=
  match rest with
  | [] => s.fail ⟨brace, s.stop⟩ .escapeUnfinished
  | cell :: more => do
    if cell.char = '\x7d' then pure ([], rest)
    else if (Literal.Quoted.hexDigit? cell.char).isNone then s.fail (s.next rest) .hexInvalidDigit
    else
      let (ds, tail) ← bracedDigits s extended brace (within more (skipBlank extended more))
      pure (cell.char :: ds, tail)
  termination_by rest.length
  decreasing_by
    have := length_within_le more (skipBlank extended more)
    simp only [List.length_cons]
    omega

/-- The character that hexadecimal digits name, if there is one. -/
def hexChar (s : Source) (extent : Extent) (ds : List Char) : Except Error Char :=
  match (Literal.Quoted.hexValue? ds).bind Literal.Quoted.scalar? with
  | some c => pure c
  | none => s.fail extent .hexInvalid

/-- A character by its code point; `rest` starts with the letter that tells the width. -/
def hexLiteral (s : Source) (extended : Bool) (start : Place) (letter : Char) (rest : List Cell) :
    Except Error (Literal × List Cell) := do
  let inner := advance extended rest
  match inner with
  | [] => s.fail (s.point []) .escapeUnfinished
  | cell :: _ =>
    if cell.char = '\x7b' then
      let brace := cell.place
      let (ds, close) ← bracedDigits s extended brace (advance extended inner)
      let tail := advance extended close
      if ds.isEmpty then s.fail ⟨brace, s.here tail⟩ .hexEmpty else
      let c ← hexChar s ⟨s.after inner, s.here close⟩ ds
      pure ({ char := c, extent := ⟨start, s.here tail⟩ }, tail)
    else
      let width := if letter = 'x' then 2 else if letter = 'u' then 4 else 8
      let (ds, tail) ← hexDigits s extended width inner
      let c ← hexChar s ⟨cell.place, s.here tail⟩ ds
      pure ({ char := c, extent := ⟨start, s.here tail⟩, byte := letter = 'x' }, tail)

/-- Characters up to a closing brace. -/
def bracedName (extended : Bool) (rest : List Cell) : List Char × List Cell :=
  match rest with
  | [] => ([], [])
  | cell :: more =>
    if cell.char = '\x7d' then ([], rest)
    else
      let (name, tail) := bracedName extended (within more (skipBlank extended more))
      (cell.char :: name, tail)
  termination_by rest.length
  decreasing_by
    have := length_within_le more (skipBlank extended more)
    simp only [List.length_cons]
    omega

/-- Splits a name at the first occurrence of a separator. -/
def splitAtWord (separator : List Char) : List Char → Option (List Char × List Char)
  | [] => none
  | c :: cs =>
    if separator.isPrefixOf (c :: cs) then some ([], (c :: cs).drop separator.length)
    else (splitAtWord separator cs).map fun (before, after) => (c :: before, after)

/-- A property name, or one with a value behind `!=`, `:` or `=`. All three ask for the value; only
the capital letter of the class negates. -/
def propertyQuery (name : List Char) : PropertyQuery :=
  match (splitAtWord ['!', '='] name).or ((splitAtWord [':'] name).or (splitAtWord ['='] name)) with
  | some (before, after) => .valued (String.ofList before) (String.ofList after)
  | none => .named (String.ofList name)

/-- A Unicode class; `rest` starts with its letter. -/
def propertyClass (s : Source) (extended : Bool) (start : Place) (negated : Bool)
    (rest : List Cell) : Except Error (ClassEscape × List Cell) := do
  let inner := advance extended rest
  match inner with
  | [] => s.fail (s.point []) .escapeUnfinished
  | cell :: _ =>
    if cell.char = '\x7b' then
      let (name, close) := bracedName extended (advance extended inner)
      match close with
      | [] => s.fail (s.point []) .escapeUnfinished
      | _ :: tail => pure (.property (propertyQuery name) negated ⟨start, s.here tail⟩, tail)
    else if cell.char = '\\' then s.fail (s.next inner) .unicodeClassInvalid
    else
      let tail := advance extended inner
      pure (.property (.named (String.singleton cell.char)) negated ⟨start, s.here tail⟩, tail)

/-- What an escape or a plain character stands for. -/
inductive Primitive where
  | literal (literal : Literal)
  | assertion (kind : Assertion) (extent : Extent)
  | dot (extent : Extent)
  | escape (escape : ClassEscape)

def Primitive.extent : Primitive → Extent
  | .literal l => l.extent
  | .assertion _ extent => extent
  | .dot extent => extent
  | .escape (.perl _ _ extent) => extent
  | .escape (.property _ _ extent) => extent

def Primitive.toSyntax : Primitive → Syntax
  | .literal l => .literal l
  | .assertion kind _ => .assertion kind
  | .dot extent => .dot extent
  | .escape e => .escape e

def isBoundaryLetter (c : Char) : Bool :=
  c.isAlpha || c = '-'

/-- Letters of a named word boundary. -/
def boundaryName (extended : Bool) (rest : List Cell) : List Char × List Cell :=
  match rest with
  | [] => ([], [])
  | cell :: more =>
    if isBoundaryLetter cell.char then
      let (name, tail) := boundaryName extended (within more (skipBlank extended more))
      (cell.char :: name, tail)
    else ([], rest)
  termination_by rest.length
  decreasing_by
    have := length_within_le more (skipBlank extended more)
    simp only [List.length_cons]
    omega

/-- A named word boundary in braces; none when the braces hold a count instead. -/
def namedBoundary? (s : Source) (extended : Bool) (start : Place) (rest : List Cell) :
    Except Error (Option (Assertion × List Cell)) := do
  let inner := advance extended rest
  match inner with
  | [] => s.fail ⟨start, s.stop⟩ .boundaryUnfinished
  | cell :: _ =>
    if !isBoundaryLetter cell.char then pure none else
    let (name, close) := boundaryName extended inner
    let unclosed : Except Error (Option (Assertion × List Cell)) :=
      s.fail ⟨s.here rest, s.here close⟩ .boundaryUnclosed
    match close with
    | [] => unclosed
    | last :: tail =>
      if last.char ≠ '\x7d' then unclosed else
      match String.ofList name with
      | "start" => pure (some (.wordStart, tail))
      | "end" => pure (some (.wordEnd, tail))
      | "start-half" => pure (some (.wordStartHalf, tail))
      | "end-half" => pure (some (.wordEndHalf, tail))
      | _ => s.fail ⟨cell.place, last.place⟩ .boundaryUnrecognized

/-- Characters with a meaning of their own. -/
def isMeta (c : Char) : Bool :=
  ['\\', '.', '+', '*', '?', '(', ')', '|', '[', ']', '\x7b', '\x7d', '^', '$', '#', '&', '-',
    '~'].contains c

/-- Whether a backslash before the character leaves it as it is. -/
def isEscapable (c : Char) : Bool :=
  isMeta c || (c.toNat < 0x80 && !c.isAlphanum && c != '<' && c != '>')

def controlEscape? : Char → Option Char
  | 'a' => some '\x07'
  | 'f' => some '\x0c'
  | 't' => some '\t'
  | 'n' => some '\n'
  | 'r' => some '\r'
  | 'v' => some '\x0b'
  | _ => none

def perlEscape? : Char → Option (PerlClass × Bool)
  | 'd' => some (.digit, false)
  | 's' => some (.space, false)
  | 'w' => some (.word, false)
  | 'D' => some (.digit, true)
  | 'S' => some (.space, true)
  | 'W' => some (.word, true)
  | _ => none

/-- An escape; `rest` starts with the backslash. -/
def escape (s : Source) (extended : Bool) (rest : List Cell) :
    Except Error (Primitive × List Cell) := do
  let start := s.here rest
  match rest.tail with
  | [] => s.fail ⟨start, s.stop⟩ .escapeUnfinished
  | cell :: tail =>
    let c := cell.char
    let letter := cell :: tail
    let extent : Extent := ⟨start, s.after letter⟩
    if c.isDigit then s.fail extent .backreference
    else if c = 'x' || c = 'u' || c = 'U' then
      let (l, tail) ← hexLiteral s extended start c letter
      pure (.literal l, tail)
    else if c = 'p' || c = 'P' then
      let (e, tail) ← propertyClass s extended start (c = 'P') letter
      pure (.escape e, tail)
    else match perlEscape? c with
    | some (kind, negated) => pure (.escape (.perl kind negated extent), tail)
    | none =>
      if isEscapable c then pure (.literal { char := c, extent := extent }, tail)
      else match controlEscape? c with
      | some d => pure (.literal { char := d, extent := extent }, tail)
      | none =>
        if c = 'A' then pure (.assertion .startText extent, tail)
        else if c = 'z' then pure (.assertion .endText extent, tail)
        else if c = 'B' then pure (.assertion .notWordBoundary extent, tail)
        else if c = '<' then pure (.assertion .wordStart extent, tail)
        else if c = '>' then pure (.assertion .wordEnd extent, tail)
        else if c = 'b' then
          match tail with
          | brace :: _ =>
            if brace.char = '\x7b' then
              match ← namedBoundary? s extended start tail with
              | some (kind, tail) => pure (.assertion kind ⟨start, s.here tail⟩, tail)
              | none => pure (.assertion .wordBoundary extent, tail)
            else pure (.assertion .wordBoundary extent, tail)
          | [] => pure (.assertion .wordBoundary extent, tail)
        else s.fail extent .escapeUnrecognized

/-! Bracketed classes. -/

def asciiClass? : String → Option AsciiClass
  | "alnum" => some .alnum
  | "alpha" => some .alpha
  | "ascii" => some .ascii
  | "blank" => some .blank
  | "cntrl" => some .cntrl
  | "digit" => some .digit
  | "graph" => some .graph
  | "lower" => some .lower
  | "print" => some .print
  | "punct" => some .punct
  | "space" => some .space
  | "upper" => some .upper
  | "word" => some .word
  | "xdigit" => some .xdigit
  | _ => none

/-- A class by its name between colons; `rest` starts with the inner bracket. -/
def namedClass? (s : Source) (rest : List Cell) : Option (ClassSet × List Cell) := do
  let start := s.here rest
  let colon :: more := rest.tail | none
  if colon.char ≠ ':' then none else
  let (negated, body) := match more with
    | cell :: more' => if cell.char = '^' then (true, more') else (false, more)
    | [] => (false, more)
  let name := body.takeWhile fun cell => cell.char ≠ ':'
  let _ :: bracket :: tail := body.dropWhile fun cell => cell.char ≠ ':' | none
  if bracket.char ≠ ']' then none else
  let kind ← asciiClass? (String.ofList (name.map Cell.char))
  pure (.ascii kind negated ⟨start, s.here tail⟩, tail)

/-- An opened bracket: where it starts, what its opening covers, and what was read around it. -/
structure Bracket where
  start : Place
  opening : Extent
  negated : Bool
  /-- Items of the enclosing brackets, read so far. -/
  outer : ClassSet
  /-- Left side of a set operator of the enclosing brackets. -/
  pending : Option (SetOperator × ClassSet)

/-- Applies a set operator that waits for its right side. -/
def settle (pending : Option (SetOperator × ClassSet)) (items : ClassSet) : ClassSet :=
  match pending with
  | none => items
  | some (operator, left) => .combined operator left items

/-- Hyphens directly behind the opening, each for itself. -/
def leadingHyphens (s : Source) (extended : Bool) (start : Place) (items : ClassSet)
    (rest : List Cell) : Except Error (ClassSet × List Cell) :=
  match rest with
  | [] => s.fail ⟨start, start⟩ .classUnclosed
  | cell :: more =>
    if cell.char = '-' then
      leadingHyphens s extended start
        (.union items (.literal { char := '-', extent := s.next rest }))
        (within more (skipBlank extended more))
    else .ok (items, rest)
  termination_by rest.length
  decreasing_by
    have := length_within_le more (skipBlank extended more)
    simp only [List.length_cons]
    omega

/-- Opens a bracket: an optional sign, then hyphens or a closing bracket taken as themselves. -/
def openBracket (s : Source) (extended : Bool) (outer : ClassSet)
    (pending : Option (SetOperator × ClassSet)) (rest : List Cell) :
    Except Error (Bracket × ClassSet × List Cell) := do
  let start := s.here rest
  let unclosed {α : Type} (tail : List Cell) : Except Error α :=
    s.fail ⟨start, s.here tail⟩ .classUnclosed
  let inner := advance extended rest
  match inner with
  | [] => unclosed inner
  | cell :: _ =>
    let negated := cell.char = '^'
    let inner := if negated then advance extended inner else inner
    if inner.isEmpty then unclosed inner else
    let (items, inner) ← leadingHyphens s extended start .empty inner
    match inner with
    | [] => unclosed inner
    | cell :: _ =>
      let (items, inner) ←
        if items = .empty && cell.char = ']' then
          let tail := advance extended inner
          if tail.isEmpty then unclosed tail
          else pure (ClassSet.literal { char := ']', extent := s.next inner }, tail)
        else pure (items, inner)
      pure (⟨start, ⟨start, s.here inner⟩, negated, outer, pending⟩, items, inner)

/-- One member of a class: an escape or a character. -/
def member (s : Source) (extended : Bool) (rest : List Cell) :
    Except Error (Primitive × List Cell) :=
  match rest with
  | [] => s.fail (s.point []) .classUnclosed
  | cell :: tail =>
    if cell.char = '\\' then escape s extended rest
    else .ok (.literal { char := cell.char, extent := s.next rest }, tail)

def memberItem (s : Source) : Primitive → Except Error ClassSet
  | .literal l => .ok (.literal l)
  | .escape e => .ok (.escape e)
  | p => s.fail p.extent .classEscapeInvalid

def memberLiteral (s : Source) : Primitive → Except Error Literal
  | .literal l => .ok l
  | p => s.fail p.extent .classRangeLiteral

/-- A member or a range of two; `opening` is blamed when the text ends. -/
def classItem (s : Source) (extended : Bool) (opening : Extent) (rest : List Cell) :
    Except Error (ClassSet × List Cell) := do
  let (first, behind) ← member s extended rest
  let behind := skipBlank extended behind
  match behind with
  | [] => s.fail opening .classUnclosed
  | cell :: _ =>
    let second := peekSecond extended behind
    if cell.char ≠ '-' || second = some ']' || second = some '-' then
      let item ← memberItem s first
      pure (item, behind)
    else
      let inner := advance extended behind
      if inner.isEmpty then s.fail opening .classUnclosed else
      let (last, tail) ← member s extended inner
      let low ← memberLiteral s first
      let high ← memberLiteral s last
      if high.char < low.char then
        s.fail ⟨low.extent.start, high.extent.stop⟩ .classRangeInvalid
      else pure (.range low high, tail)

/-- The set operator in front. -/
def setOperator? (rest : List Cell) : Option SetOperator :=
  if startsWith ['&', '&'] rest then some .intersection
  else if startsWith ['-', '-'] rest then some .difference
  else if startsWith ['~', '~'] rest then some .symmetricDifference
  else none

/-- Reads inside the brackets of `stack`, innermost first, until the outermost one closes. -/
def classBody (s : Source) (extended : Bool) (current : Bracket) (stack : List Bracket)
    (pending : Option (SetOperator × ClassSet)) (items : ClassSet) (rest : List Cell) :
    Except Error (Syntax × List Cell) :=
  match _h : skipBlank extended rest with
  | [] => s.fail current.opening .classUnclosed
  | cell :: more => do
    let front := cell :: more
    if cell.char = '[' then
      match namedClass? s front with
      | some (item, tail) =>
        classBody s extended current stack pending (.union items item) (within more tail)
      | none =>
        let (bracket, inner, tail) ← openBracket s extended items pending front
        classBody s extended bracket (current :: stack) none inner (within more tail)
    else if cell.char = ']' then
      let inner := settle pending items
      let extent : Extent := ⟨current.start, s.here more⟩
      match stack with
      | [] => pure (.bracketed current.negated extent inner, more)
      | enclosing :: stack =>
        classBody s extended enclosing stack current.pending
          (.union current.outer (.bracketed current.negated extent inner)) more
    else match setOperator? front with
    | some operator =>
      classBody s extended current stack (some (operator, settle pending items)) .empty
        (within more more.tail)
    | none =>
      let (item, tail) ← classItem s extended current.opening front
      classBody s extended current stack pending (.union items item) (within more tail)
  termination_by rest.length
  decreasing_by
    all_goals
      have shrink := length_skipBlank_le extended rest
      rw [_h] at shrink
      simp only [List.length_cons] at shrink
      first
        | omega
        | exact Nat.lt_of_le_of_lt (length_within_le _ _) shrink

/-! Groups. -/

def flag? : Char → Option Flag
  | 'i' => some .caseInsensitive
  | 'm' => some .multiLine
  | 's' => some .dotAll
  | 'U' => some .swapGreed
  | 'u' => some .unicode
  | 'R' => some .crlf
  | 'x' => some .extended
  | _ => none

/-- Flags up to a colon or a closing parenthesis; `seen` holds the items so far, last first. -/
def flagItems (s : Source) (seen : List (FlagItem × Extent)) (rest : List Cell) :
    Except Error (List FlagItem × List Cell) :=
  match rest with
  | [] => s.fail (s.point []) .flagUnfinished
  | cell :: more =>
    if cell.char = ':' || cell.char = ')' then
      match seen with
      | (.negation, extent) :: _ => s.fail extent .flagDangling
      | _ => .ok ((seen.map Prod.fst).reverse, rest)
    else
      let extent := s.next rest
      let found := if cell.char = '-' then some FlagItem.negation else (flag? cell.char).map .flag
      match found with
      | none => s.fail extent .flagUnrecognized
      | some item =>
        match seen.find? fun entry => entry.1 == item with
        | some (_, earlier) =>
          s.conflict extent earlier
            (if item = .negation then .flagRepeatedNegation else .flagDuplicate)
        | none => flagItems s ((item, extent) :: seen) more

/-- The last value that a flag list gives a flag. -/
def flagState (flag : Flag) (items : List FlagItem) : Option Bool :=
  let rec go (value : Bool) (found : Option Bool) : List FlagItem → Option Bool
    | [] => found
    | .negation :: rest => go false found rest
    | .flag f :: rest => go value (if f = flag then some value else found) rest
  go true none items

/-- Whether a character may stand in the name of a group. -/
def isNameChar (first : Bool) (c : Char) : Bool :=
  if first then c = '_' || Unicode.isAlphabetic c
  else c = '_' || c = '.' || c = '[' || c = ']' || Unicode.isAlphanumeric c

/-- Characters of a group name up to the closing angle. -/
def nameChars (s : Source) (first : Bool) (rest : List Cell) :
    Except Error (List Char × List Cell) :=
  match rest with
  | [] => s.fail (s.point []) .nameUnclosed
  | cell :: more => do
    if cell.char = '>' then pure ([], rest)
    else if !isNameChar first cell.char then s.fail (s.next rest) .nameInvalid
    else
      let (name, tail) ← nameChars s false more
      pure (cell.char :: name, tail)

/-- Names of groups with the places where they stand. -/
abbrev Names := List (List Char × Extent)

/-- A group name, unless an earlier group has it. -/
def groupName (s : Source) (names : Names) (rest : List Cell) :
    Except Error (Names × List Cell) := do
  let start := s.here rest
  let (name, close) ← nameChars s true rest
  let extent : Extent := ⟨start, s.here close⟩
  if name.isEmpty then s.fail ⟨start, start⟩ .nameEmpty else
  match names.find? fun entry => entry.1 == name with
  | some (_, earlier) => s.conflict extent earlier .nameDuplicate
  | none => pure ((name, extent) :: names, close.tail)

/-- What an opening parenthesis starts. -/
inductive Opening where
  /-- Flags for the rest of the enclosing group. -/
  | flags (items : List FlagItem)
  /-- A group, with flags of its own. -/
  | group (items : List FlagItem)

/-- Reads the opening of a group; `rest` starts with the parenthesis. -/
def openGroup (s : Source) (extended : Bool) (names : Names) (rest : List Cell) :
    Except Error (Opening × Names × List Cell) := do
  let paren := s.next rest
  let inner := skipBlank extended rest.tail
  let lookAround (n : Nat) : Except Error (Opening × Names × List Cell) :=
    s.fail ⟨paren.start, s.here (inner.drop n)⟩ .lookAround
  if startsWith ['?', '='] inner || startsWith ['?', '!'] inner then lookAround 2
  else if startsWith ['?', '<', '='] inner || startsWith ['?', '<', '!'] inner then lookAround 3
  else if startsWith ['?', 'P', '<'] inner then
    let (names, tail) ← groupName s names (inner.drop 3)
    pure (.group [], names, tail)
  else if startsWith ['?', '<'] inner then
    let (names, tail) ← groupName s names (inner.drop 2)
    pure (.group [], names, tail)
  else if startsWith ['?'] inner then
    if inner.tail.isEmpty then s.fail paren .groupUnclosed else
    let (items, close) ← flagItems s [] inner.tail
    if close.head?.any fun cell => cell.char = ')' then
      if items.isEmpty then s.fail (s.point inner) .repetitionMissing
      else pure (.flags items, names, close.tail)
    else pure (.group items, names, close.tail)
  else pure (.group [], names, inner)

/-- A group that is still open, and what was read before it. -/
structure Frame where
  paren : Extent
  flags : List FlagItem
  /-- Mode to return to when the group closes. -/
  extended : Bool
  /-- Finished alternatives of the enclosing group, last first. -/
  alternatives : List Syntax
  /-- Items of the enclosing group's current alternative, last first. -/
  items : List Syntax

/-- Items in reading order, as one pattern. -/
def concatenation (items : List Syntax) : Syntax :=
  items.foldl (fun tail item => .sequence item tail) .empty

/-- Alternatives in reading order, as one pattern. -/
def alternation (alternatives : List Syntax) (last : Syntax) : Syntax :=
  alternatives.foldl (fun tail branch => .either branch tail) last

/-- Applies a repetition to the last item. -/
def repeatLast (s : Source) (rest : List Cell) (items : List Syntax) :
    Except Error (Syntax × List Syntax) :=
  match items with
  | [] => s.fail (s.point rest) .repetitionMissing
  | item :: before =>
    if item.isRepeatable then .ok (item, before) else s.fail (s.point rest) .repetitionMissing

/-- Least and greatest number of repetitions of a one-character operator. -/
def repetition? : Char → Option (Nat × Option Nat)
  | '?' => some (0, some 1)
  | '*' => some (0, none)
  | '+' => some (1, none)
  | _ => none

/-- A character, an escape, a dot or an anchor. -/
def primitive (s : Source) (extended : Bool) (cell : Cell) (more : List Cell) :
    Except Error (Primitive × List Cell) :=
  let rest := cell :: more
  if cell.char = '\\' then escape s extended rest
  else if cell.char = '.' then .ok (.dot (s.next rest), more)
  else if cell.char = '^' then .ok (.assertion .startLine (s.next rest), more)
  else if cell.char = '$' then .ok (.assertion .endLine (s.next rest), more)
  else .ok (.literal { char := cell.char, extent := s.next rest }, more)

/-- Reads to the end; `stack` holds the open groups, innermost first. -/
def body (s : Source) (extended : Bool) (names : Names) (stack : List Frame)
    (alternatives items : List Syntax) (rest : List Cell) : Except Error Syntax :=
  match _h : skipBlank extended rest with
  | [] =>
    match stack with
    | [] => .ok (alternation alternatives (concatenation items))
    | frame :: _ => s.fail frame.paren .groupUnclosed
  | cell :: more => do
    let front := cell :: more
    if cell.char = '(' then
      let (opening, names, tail) ← openGroup s extended names front
      match opening with
      | .flags flags =>
        body s ((flagState .extended flags).getD extended) names stack alternatives
          (.flags flags :: items) (within more tail)
      | .group flags =>
        body s ((flagState .extended flags).getD extended) names
          (⟨s.next front, flags, extended, alternatives, items⟩ :: stack) [] [] (within more tail)
    else if cell.char = ')' then
      match stack with
      | [] => s.fail (s.next front) .groupUnopened
      | frame :: stack =>
        let inner := alternation alternatives (concatenation items)
        body s frame.extended names stack frame.alternatives
          (.group frame.flags inner :: frame.items) more
    else if cell.char = '|' then
      body s extended names stack (concatenation items :: alternatives) [] more
    else if cell.char = '[' then
      let (bracket, inner, tail) ← openBracket s extended .empty none front
      let (item, tail) ← classBody s extended bracket [] none inner tail
      body s extended names stack alternatives (item :: items) (within more tail)
    else if cell.char = '\x7b' then
      let (item, before) ← repeatLast s front items
      let ((least, most), tail) ← counts s extended front
      body s extended names stack alternatives (.repeated item least most :: before)
        (within more tail)
    else match repetition? cell.char with
    | some (least, most) =>
      let (item, before) ← repeatLast s front items
      body s extended names stack alternatives (.repeated item least most :: before)
        (within more (dropLazy more))
    | none =>
      let (item, tail) ← primitive s extended cell more
      body s extended names stack alternatives (item.toSyntax :: items) (within more tail)
  termination_by rest.length
  decreasing_by
    all_goals
      have shrink := length_skipBlank_le extended rest
      rw [_h] at shrink
      simp only [List.length_cons] at shrink
      first
        | omega
        | exact Nat.lt_of_le_of_lt (length_within_le _ _) shrink

end Reader

/-- Reads a pattern. -/
def Syntax.read (pattern : String) : Except Error Syntax :=
  let cs := pattern.toList
  let start : Place := ⟨1, 0⟩
  let source : Reader.Source := ⟨pattern, cs.foldl Place.next start⟩
  Reader.body source false [] [] [] [] (Reader.cells start cs)

end QueryLint.Pattern
