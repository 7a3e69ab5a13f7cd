/-! Lines and columns of a text.

Lines count from one; the column of an offset is the number of characters before it on its line,
so that a newline belongs to the line it ends. -/

set_option autoImplicit false

namespace QueryLint.Text

structure Place where
  line : Nat
  column : Nat
  deriving DecidableEq, Repr

namespace Place

/-- The place after one more character. -/
def next (p : Place) (c : Char) : Place :=
  if c = '\n' then ⟨p.line + 1, 0⟩ else ⟨p.line, p.column + 1⟩

/-- Passes every character that starts within the next `n` bytes. -/
def skip (p : Place) : Nat → List Char → Place
  | 0, _ => p
  | _ + 1, [] => p
  | n + 1, c :: cs => (p.next c).skip (n + 1 - c.utf8Size) cs

/-- The place of a byte offset; beyond the end it is the place after the last character. -/
def ofOffset (text : List Char) (offset : Nat) : Place :=
  (Place.mk 1 0).skip offset text

def display (p : Place) : String :=
  s!"({p.line}:{p.column})"

end Place

/-- The lines of a text, without the newlines between them. -/
def lines : List Char → List (List Char)
  | [] => [[]]
  | c :: cs => if c = '\n' then [] :: lines cs else (lines cs).modifyHead (c :: ·)

/-- Text of a line, empty when there is no such line; line zero is read as line one. -/
def lineText (text : List Char) (line : Nat) : List Char :=
  (lines text).getD (line - 1) []

/-- Byte offset at which a line begins, the size of the text when there is no such line. -/
def lineStart : Nat → List Char → Nat
  | 0, _ => 0
  | 1, _ => 0
  | _ + 2, [] => 0
  | n + 2, c :: cs => c.utf8Size + (if c = '\n' then lineStart (n + 1) cs else lineStart (n + 2) cs)

end QueryLint.Text
