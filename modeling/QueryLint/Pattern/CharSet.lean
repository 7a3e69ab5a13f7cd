import QueryLint.Unicode.CaseFolding
import QueryLint.Unicode.Properties

/-! Sets of code points as ascending lists of ranges that neither overlap nor touch. -/

set_option autoImplicit false

namespace QueryLint.Pattern

/-- First and last code point of each range. -/
abbrev CharSet := List (Nat × Nat)

namespace CharSet

/-- Joins neighbours in a list that ascends by first code points. -/
def merge : CharSet → CharSet
  | [] => []
  | [r] => [r]
  | (a, b) :: (c, d) :: rest =>
    if c ≤ b + 1 then merge ((a, max b d) :: rest) else (a, b) :: merge ((c, d) :: rest)
  termination_by s => s.length

def ofRanges (ranges : List (Nat × Nat)) : CharSet :=
  merge (ranges.mergeSort fun x y => x.1 ≤ y.1)

def single (n : Nat) : CharSet :=
  [(n, n)]

def contains (s : CharSet) (n : Nat) : Bool :=
  s.any fun (a, b) => a ≤ n && n ≤ b

def union (s t : CharSet) : CharSet :=
  ofRanges (s ++ t)

/-- The code points from `low` to `top` that the set lacks. -/
def gaps (low top : Nat) : CharSet → CharSet
  | [] => if low ≤ top then [(low, top)] else []
  | (a, b) :: rest => (if low < a then [(low, a - 1)] else []) ++ gaps (b + 1) top rest

/-- Surrogate code points are no characters. -/
def surrogates : Nat × Nat := (0xd800, 0xdfff)

def intersect (s t : CharSet) : CharSet :=
  ofRanges <| s.flatMap fun (a, b) => t.filterMap fun (c, d) =>
    let low := max a c
    let high := min b d
    if low ≤ high then some (low, high) else none

/-- All characters that are not in the set. -/
def complement (s : CharSet) : CharSet :=
  gaps 0 0x10ffff (union s [surrogates])

/-- All bytes that are not in the set. -/
def byteComplement (s : CharSet) : CharSet :=
  gaps 0 0xff s

def difference (s t : CharSet) : CharSet :=
  intersect s (gaps 0 0x10ffff t)

def symmetricDifference (s t : CharSet) : CharSet :=
  union (difference s t) (difference t s)

def isAscii (s : CharSet) : Bool :=
  s.all fun (_, b) => b ≤ 0x7f

/-- Adds every character that differs from a member in case only. -/
def closeCase (s : CharSet) : CharSet :=
  -- Folded forms of the members, then everything with such a folded form.
  let folded := Unicode.foldPairs.filterMap fun (n, f) => if s.contains n then some (f, f) else none
  let forms := union s folded
  let back := Unicode.foldPairs.filterMap fun (n, f) =>
    if forms.contains f then some (n, n) else none
  ofRanges (forms ++ back)

/-- Adds the other case of every ASCII letter. -/
def closeAsciiCase (s : CharSet) : CharSet :=
  let letters := (List.range 26).flatMap fun k =>
    let upper := 0x41 + k
    let lower := 0x61 + k
    if s.contains upper || s.contains lower then [(upper, upper), (lower, lower)] else []
  ofRanges (s ++ letters)

end CharSet

end QueryLint.Pattern
