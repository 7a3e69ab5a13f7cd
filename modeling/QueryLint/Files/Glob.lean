import QueryLint.Files.Tree

/-! Patterns for paths, and what a directory tree has for them. -/

set_option autoImplicit false

namespace QueryLint

/-- How paths are found by patterns. A library finds them; here is what is asked of it. -/
structure Glob where
  /-- Writes a text so that a pattern means just this text. -/
  escape : String → String
  /-- What there is for a pattern: paths, or why some directory could not be read; or what is wrong with
  the pattern. -/
  entries : String → Except String (List (Except String String))

/-- What finds paths in a tree. -/
class FileTree.Globbing where
  glob : FileTree → Glob

namespace Glob

def escapeChar (c : Char) : List Char :=
  if c ∈ ['?', '*', '[', ']'] then ['[', c, ']'] else [c]

/-- Writes a text with every character that means something in a pattern in brackets. -/
def bracketed (text : String) : String := String.ofList (text.toList.flatMap escapeChar)

inductive Piece where
  | char (c : Char)
  | anyChar
  | anyText
  /-- A character in one of the ranges, or, if negated, in none. -/
  | within (negated : Bool) (ranges : List (Char × Char))
  deriving DecidableEq, Repr

/-- What a pattern has between slashes. -/
inductive Segment where
  /-- Any number of directories, each in the one before. -/
  | directories
  | name (pieces : List Piece)
  deriving DecidableEq, Repr

namespace Piece

/-- A hyphen between two characters makes a range of them. -/
def ranges : List Char → List (Char × Char)
  | a :: '-' :: b :: rest => (a, b) :: ranges rest
  | a :: rest => (a, a) :: ranges rest
  | [] => []

def ofClass : List Char → Piece
  | '!' :: inside => .within true (ranges inside)
  | inside => .within false (ranges inside)

/-- Reads the pieces of a segment; inside brackets, `class?` has what is read of a class. A closing bracket
that comes first in a class is a member of it. -/
def read (class? : Option (List Char)) : List Char → Option (List Piece)
  | [] => if class?.isSome then none else some []
  | c :: rest =>
    match class? with
    | some inside =>
      if c = ']' ∧ inside ≠ [] ∧ inside ≠ ['!'] then (ofClass inside :: ·) <$> read none rest
      else read (some (inside ++ [c])) rest
    | none =>
      if c = '[' then read (some []) rest
      else if c = '?' then (.anyChar :: ·) <$> read none rest
      else if c = '*' then
        if rest.head? = some '*' then none else (.anyText :: ·) <$> read none rest
      else (.char c :: ·) <$> read none rest

def accepts (c : Char) : Piece → Bool
  | .char d => c = d
  | .anyChar => true
  | .anyText => false
  | .within negated ranges => (ranges.any fun (a, b) => a ≤ c && c ≤ b) != negated

/-- Whether pieces are together a whole text. -/
def matchAll : List Piece → List Char → Bool
  | [], text => text.isEmpty
  | .anyText :: pieces, text =>
    (List.range (text.length + 1)).any fun n => matchAll pieces (text.drop n)
  | piece :: pieces, c :: text => piece.accepts c && matchAll pieces text
  | _ :: _, [] => false

/-- The only character that a piece accepts, if its form shows that there is one. -/
def literal? : Piece → Option Char
  | .char c => some c
  | .within false [(a, b)] => if a = b then some a else none
  | _ => none

end Piece

/-- Whether a text can be the name of an entry of a directory. -/
def isName (text : String) : Bool :=
  text ≠ "" && text ≠ "." && text ≠ ".."

namespace Segment

def ofText? (text : String) : Option Segment :=
  if text = "**" then some .directories else .name <$> Piece.read none text.toList

/-- The only text that a segment is, if its form shows that there is one. -/
def literal? : Segment → Option String
  | .directories => none
  | .name pieces => String.ofList <$> pieces.mapM Piece.literal?

/-- Whether segments are together the components of a path. Only a segment that is a single text may be no
name of an entry. -/
def matchAll : List Segment → List String → Bool
  | [], components => components.isEmpty
  | .directories :: segments, components =>
    (List.range (components.length + 1)).any fun n =>
      (components.take n).all isName && matchAll segments (components.drop n)
  | .name pieces :: segments, component :: components =>
    Piece.matchAll pieces component.toList &&
      ((Segment.name pieces).literal?.isSome || isName component) && matchAll segments components
  | .name _ :: _, [] => false

end Segment

/-- The segments of a pattern, unless it is none. -/
def segments? (pattern : String) : Option (List Segment) :=
  (FileTree.components pattern).mapM Segment.ofText?

/-- Whether a path is written as a pattern asks. -/
def matchesPath (pattern path : String) : Bool :=
  (segments? pattern).any fun segments => Segment.matchAll segments (FileTree.components path)

end Glob

namespace FileTree

/-- The entries among `entries` and below them, by the names that lead to them. -/
def entriesIn : List (String × FileTree) → List (List String)
  | [] => []
  | (name, .file _) :: rest => [name] :: entriesIn rest
  | (name, .directory entries) :: rest =>
    [name] :: (entriesIn entries).map (name :: ·) ++ entriesIn rest

/-- A tree itself and all entries below it. -/
def entries : FileTree → List (List String)
  | .file _ => [[]]
  | .directory entries => [] :: entriesIn entries

/-- The components that segments begin with, and the segments behind. -/
def fixed : List Glob.Segment → List String × List Glob.Segment
  | [] => ([], [])
  | segment :: segments =>
    match segment.literal? with
    | none => ([], segment :: segments)
    | some component => ((fixed segments).1.cons component, (fixed segments).2)

/-- How found paths show the components in front: repeated slashes are one, and single dots that come first
are left out. Behind such dots, a slash leads nowhere. -/
def shown? : List String → Option (List String)
  | "" :: behind => some ("" :: behind.filter (· ≠ ""))
  | components =>
    match components.dropWhile (· = ".") with
    | "" :: _ => none
    | behind => some (behind.filter (· ≠ ""))

/-- What a tree has for a pattern. -/
def matches? (root : FileTree) (pattern : String) : Except String (List (Except String String)) :=
  match Glob.segments? pattern with
  | none => .error s!"invalid pattern: {pattern}"
  | some segments =>
    let (front, behind) := fixed segments
    match shown? front, walk [] root front with
    | some shown, .ok tree =>
      .ok ((tree.entries.filter (Glob.Segment.matchAll behind)).map fun names =>
        .ok ("/".intercalate (shown ++ names)))
    | _, _ => .ok []

/-- The paths of a tree by patterns. -/
def glob (root : FileTree) : Glob where
  escape := Glob.bracketed
  entries := root.matches?

/-- Paths are found in the tree that is at hand. -/
@[reducible] def globbing : Globbing := ⟨glob⟩

end FileTree

end QueryLint
