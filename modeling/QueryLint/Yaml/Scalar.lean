import QueryLint.Literal.Quoted
import QueryLint.Yaml.Cell

/-! Reading scalars: plain text, quoted text, and blocks of lines.

Every reader starts behind the mark that opens the scalar, if it has one, and gives the text with
the cells behind it; it fails where the text is malformed. -/

set_option autoImplicit false

namespace QueryLint.Yaml

/-- How a scalar is written, as far as it matters for its type. -/
inductive ScalarStyle where
  | plain | literal | folded | quoted
  deriving DecidableEq, Repr

/-- What stands between two words: spaces, or line breaks, of which the first counts apart. -/
inductive Gap where
  | spaces (text : List Char)
  | broken (first : List Char) (more : List Char)
  deriving DecidableEq, Repr

namespace Gap

def isBroken : Gap → Bool
  | .spaces _ => false
  | .broken .. => true

def addBlank (c : Char) : Gap → Gap
  | .spaces text => .spaces (text ++ [c])
  | gap => gap

def addBreak (c : Char) : Gap → Gap
  | .spaces _ => .broken [c] []
  | .broken first more => .broken first (more ++ [c])

/-- The text of a gap: one line feed is folded into a space, further ones are kept. -/
def text : Gap → List Char
  | .spaces text => text
  | .broken first more =>
    if first = ['\n'] then (if more.isEmpty then [' '] else more) else first ++ more

/-- Reads blanks and breaks. Tabs must not indent a further line up to the margin. -/
def read (margin : Nat) (gap : Gap) : List Cell → Option (Gap × List Cell)
  | [] => some (gap, [])
  | cell :: rest =>
    if isBlank cell.char then
      if gap.isBroken && cell.column < margin && cell.char = '\t' then none
      else read margin (gap.addBlank cell.char) rest
    else if isBreak cell.char then read margin (gap.addBreak cell.char) rest
    else some (gap, cell :: rest)

end Gap

namespace Scalar

/-! Plain text. -/

/-- Characters that structure flow collections. -/
def isFlowMark (c : Char) : Bool :=
  c = ',' || c = '[' || c = ']' || c = '\x7b' || c = '\x7d'

/-- Characters up to a gap, a colon in front of a gap or, in flow collections, a structuring
character. There a colon must not stand directly in front of such a character. -/
def plainWord (flow : Bool) : List Cell → Option (List Char × List Cell)
  | [] => some ([], [])
  | cell :: rest =>
    let c := cell.char
    let next := ahead rest
    if isGap c then some ([], cell :: rest)
    else if flow && c = ':' && (isFlowMark next || next = '?') then none
    else if (c = ':' && isGap next) || (flow && isFlowMark c) then some ([], cell :: rest)
    else (plainWord flow rest).map fun (word, more) => (c :: word, more)

/-- Words with the gaps between them; also tells whether a line break follows the last word. -/
def plain (flow : Bool) (margin : Nat) (text : List Char) (gap : Gap) (rest : List Cell) :
    Option ((List Char × Bool) × List Cell) :=
  match rest with
  | [] => some ((text, gap.isBroken), [])
  | cell :: more =>
    if isDocumentMark (cell :: more) || cell.char = '#' then
      some ((text, gap.isBroken), cell :: more)
    else do
      let (word, behind) ← plainWord flow (cell :: more)
      if word.isEmpty then some ((text, gap.isBroken), behind)
      else
        let text := text ++ gap.text ++ word
        let (gap, behind) ← Gap.read margin (.spaces []) behind
        if !flow && column behind < margin then some ((text, gap.isBroken), behind)
        else plain flow margin text gap (within more behind)
  termination_by rest.length
  decreasing_by
    exact Nat.lt_of_le_of_lt (length_within_le _ _) (by simp)

/-! Quoted text. -/

/-- What a backslash in front of a character stands for. -/
def escape? : Char → Option Char
  | '0' => some '\x00'
  | 'a' => some '\x07'
  | 'b' => some '\x08'
  | 't' => some '\t'
  | '\t' => some '\t'
  | 'n' => some '\n'
  | 'v' => some '\x0b'
  | 'f' => some '\x0c'
  | 'r' => some '\r'
  | 'e' => some '\x1b'
  | ' ' => some ' '
  | '"' => some '"'
  | '/' => some '/'
  | '\\' => some '\\'
  | 'N' => some '\u0085'
  | '_' => some '\u00a0'
  | 'L' => some '\u2028'
  | 'P' => some '\u2029'
  | _ => none

/-- How many hexadecimal digits follow a backslash and a character. -/
def escapeWidth? : Char → Option Nat
  | 'x' => some 2
  | 'u' => some 4
  | 'U' => some 8
  | _ => none

/-- The character with a number of hexadecimal digits in front. -/
def codePoint? (width : Nat) (rest : List Cell) : Option Char := do
  let digits := (rest.take width).map Cell.char
  if digits.length < width then none
  else
    let n ← digits.foldlM (fun n c => (Literal.Quoted.hexDigit? c).map (n * 16 + ·)) 0
    if n.isValidChar then some (Char.ofNat n) else none

/-- Characters between single quotes up to a gap or a quote that is not doubled. -/
def singleWord : List Cell → List Char × List Cell
  | [] => ([], [])
  | cell :: rest =>
    if isGap cell.char then ([], cell :: rest)
    else if cell.char = '\'' then
      match rest with
      | second :: more =>
        if second.char = '\'' then
          let (word, behind) := singleWord more
          ('\'' :: word, behind)
        else ([], cell :: rest)
      | [] => ([], cell :: rest)
    else
      let (word, behind) := singleWord rest
      (cell.char :: word, behind)

/-- Characters between double quotes up to a gap or a quote, with the gap that an escaped line
break begins. -/
def doubleWord (rest : List Cell) : Option ((List Char × Gap) × List Cell) :=
  match rest with
  | [] => some (([], .spaces []), [])
  | cell :: more =>
    if isGap cell.char || cell.char = '"' then some (([], .spaces []), cell :: more)
    else if cell.char = '\\' then
      if isBreak (ahead more) then some (([], .broken [] []), more.tail)
      else
        match escape? (ahead more) with
        | some c =>
          (doubleWord more.tail).map fun ((word, gap), behind) => ((c :: word, gap), behind)
        | none => do
          let width ← escapeWidth? (ahead more)
          let c ← codePoint? width more.tail
          let ((word, gap), behind) ← doubleWord (more.tail.drop width)
          some ((c :: word, gap), behind)
    else (doubleWord more).map fun ((word, gap), behind) => ((cell.char :: word, gap), behind)
  termination_by rest.length
  decreasing_by
    all_goals
      simp only [List.length_cons, List.length_tail, List.length_drop]
      omega

/-- One word between quotes, with the gap that it begins. -/
def quotedWord (double : Bool) (rest : List Cell) : Option ((List Char × Gap) × List Cell) :=
  if double then doubleWord rest
  else
    let (word, behind) := singleWord rest
    some ((word, .spaces []), behind)

/-- Quoted text up to and including the closing quote. -/
def quoted (double : Bool) (text : List Char) (rest : List Cell) :
    Option (List Char × List Cell) :=
  match rest with
  | [] => none
  | cell :: more =>
    if isDocumentMark (cell :: more) || cell.char = endMark then none
    else do
      let ((word, gap), behind) ← quotedWord double (cell :: more)
      let text := text ++ word
      if ahead behind = (if double then '"' else '\'') then some (text, behind.tail)
      else
        let (gap, behind) ← Gap.read 0 gap behind
        quoted double (text ++ gap.text) (within more behind)
  termination_by rest.length
  decreasing_by
    exact Nat.lt_of_le_of_lt (length_within_le _ _) (by simp)

/-! Blocks of lines. -/

/-- What becomes of the line breaks behind the last line. -/
inductive Chomping where
  | strip | clip | keep
  deriving DecidableEq, Repr

def chomping? : Char → Option Chomping
  | '-' => some .strip
  | '+' => some .keep
  | _ => none

/-- An indentation given by a digit, which must not be zero; zero if none is given. -/
def indentation? (rest : List Cell) : Option (Nat × List Cell) :=
  let c := ahead rest
  if c = '0' then none
  else if c.isDigit then some (c.toNat - '0'.toNat, rest.tail)
  else some (0, rest)

/-- How the tail is chomped and what indentation is given, in either order. -/
def blockHeader? (rest : List Cell) : Option ((Chomping × Nat) × List Cell) :=
  match chomping? (ahead rest) with
  | some chomping => do
    let (given, behind) ← indentation? rest.tail
    some ((chomping, given), behind)
  | none => do
    let (given, behind) ← indentation? rest
    match chomping? (ahead behind) with
    | some chomping => some ((chomping, given), behind.tail)
    | none => some ((.clip, given), behind)

/-- Empty lines: their breaks, and the widest indentation seen. An indentation of zero is not
known yet and takes all spaces. -/
def emptyLines (indent widest : Nat) (breaks : List Char) :
    List Cell → Option ((List Char × Nat) × List Cell)
  | [] => some ((breaks, widest), [])
  | cell :: rest =>
    let inside := indent = 0 || cell.column < indent
    if inside && cell.char = ' ' then emptyLines indent widest breaks rest
    else
      let widest := max widest cell.column
      if inside && cell.char = '\t' then none
      else if isBreak cell.char then emptyLines indent widest (breaks ++ [cell.char]) rest
      else some ((breaks, widest), cell :: rest)

/-- Text read so far from a block: `first` is the break behind the last line, `more` are those of
the empty lines behind it, and `spaced` tells whether that line began with a blank. -/
structure Block where
  text : List Char := []
  first : List Char := []
  more : List Char := []
  spaced : Bool := false

/-- Adds a line. Folding joins two lines with no blank in front by a space. -/
def Block.addLine (folded : Bool) (block : Block) (line : List Char) : List Char :=
  let spaced := line.head?.any isBlank
  let gap :=
    if folded && block.first = ['\n'] && !block.spaced && !spaced then
      (if block.more.isEmpty then [' '] else [])
    else block.first
  block.text ++ gap ++ block.more ++ line

/-- Text of a block when all its lines are read. -/
def Block.finish (chomping : Chomping) (block : Block) : List Char :=
  match chomping with
  | .strip => block.text
  | .clip => block.text ++ block.first
  | .keep => block.text ++ block.first ++ block.more

/-- Lines with a given indentation. -/
def blockLines (folded : Bool) (indent : Nat) (block : Block) (rest : List Cell) :
    Option (Block × List Cell) :=
  match rest with
  | [] => some (block, [])
  | cell :: tail =>
    if cell.column = indent && cell.char ≠ endMark then do
      let (line, behind) := spanText (fun c => !isBreakOrEnd c) (cell :: tail)
      let (first, behind) :=
        if isBreak (ahead behind) then ([ahead behind], behind.tail) else ([], behind)
      let ((more, _), behind) ← emptyLines indent 0 [] behind
      let block := ⟨block.addLine folded line, first, more, line.head?.any isBlank⟩
      blockLines folded indent block (within tail behind)
    else some (block, cell :: tail)
  termination_by rest.length
  decreasing_by
    exact Nat.lt_of_le_of_lt (length_within_le _ _) (by simp)

/-- A block scalar behind its opening mark. Unless it is given, the indentation is that of the
first lines, and at least that of the margin. -/
def block (folded : Bool) (margin : Nat) (rest : List Cell) : Option (List Char × List Cell) := do
  let ((chomping, given), behind) ← blockHeader? rest
  let behind ← dropLineEnd? behind
  let indent := if given = 0 then 0 else margin - 1 + given
  let ((more, widest), behind) ← emptyLines indent 0 [] behind
  let indent := if indent = 0 then max (max widest margin) 1 else indent
  let (lines, behind) ← blockLines folded indent { more := more } behind
  some (lines.finish chomping, behind)

end Scalar

end QueryLint.Yaml
