import QueryLint.Yaml.Scalar
import QueryLint.Yaml.Tag

/-! Tokens of a document stream.

Keys need no mark in front: that a scalar or a collection is a key shows at the colon behind it.
So the place of a possible key is remembered, and its tokens are put in front of it when the colon
comes. Indentation opens and closes block collections; the margin is the first column inside the
innermost one, zero outside. -/

set_option autoImplicit false

namespace QueryLint.Yaml

inductive Token where
  | directive (directive : Directive)
  | documentStart | documentEnd | streamEnd
  | blockSequenceStart | blockMappingStart | blockEnd
  | flowSequenceStart | flowSequenceEnd | flowMappingStart | flowMappingEnd
  | blockEntry | flowEntry | key | value
  | alias (name : String)
  | anchor (name : String)
  | tag (tag : TagName)
  | scalar (text : String) (style : ScalarStyle)
  deriving DecidableEq, Repr

/-- A place where a key may have begun: the number of its first token, its first cell, and whether
it must be a key because it stands where only keys can. -/
structure PossibleKey where
  token : Nat
  cell : Cell
  required : Bool
  deriving DecidableEq, Repr

/-- Keys fit on one line and have at most 1024 characters. -/
def PossibleKey.isPast (key : PossibleKey) (here : Cell) : Bool :=
  key.cell.line < here.line || key.cell.index + 1024 < here.index

/-- What is known between two tokens. -/
structure Scan where
  tokens : Array Token := #[]
  /-- Whether a key may begin here. -/
  keyAllowed : Bool := true
  margin : Nat := 0
  /-- Margins of the block collections around the innermost. -/
  margins : List Nat := []
  key : Option PossibleKey := none
  /-- Possible keys around the open flow collections, innermost first. -/
  outerKeys : List (Option PossibleKey) := []

namespace Scan

def inFlow (s : Scan) : Bool := !s.outerKeys.isEmpty

def push (s : Scan) (t : Token) : Scan := { s with tokens := s.tokens.push t }

/-- Puts a token in front of the one with a number. -/
def insertAt (s : Scan) (n : Nat) (t : Token) : Scan :=
  { s with tokens := (s.tokens.take n).push t ++ s.tokens.drop n }

def allowKey (s : Scan) (allowed : Bool) : Scan := { s with keyAllowed := allowed }

/-- Gives up the possible key of the current level. -/
def dropKey? (s : Scan) : Option Scan :=
  if s.key.any (·.required) then none else some { s with key := none }

/-- Remembers that a key may begin at a cell. -/
def saveKey? (s : Scan) (here : Cell) : Option Scan :=
  if s.keyAllowed then
    s.dropKey?.map fun s =>
      let required := !s.inFlow && s.margin = here.column + 1
      { s with key := some ⟨s.tokens.size, here, required⟩ }
  else some s

/-- Gives up a possible key that a cell is too far away from. -/
def current? (here : Cell) : Option PossibleKey → Option (Option PossibleKey)
  | none => some none
  | some key =>
    if key.isPast here then (if key.required then none else some none) else some (some key)

/-- Gives up all possible keys that a cell is too far away from. -/
def dropPastKeys? (s : Scan) (here : Cell) : Option Scan := do
  let key ← current? here s.key
  let outer ← s.outerKeys.mapM (current? here)
  some { s with key := key, outerKeys := outer }

/-- Opens a block collection at a column if it is behind the margin. -/
def openBlock (s : Scan) (column position : Nat) (t : Token) : Scan :=
  if !s.inFlow && s.margin ≤ column then
    { s.insertAt position t with margin := column + 1, margins := s.margin :: s.margins }
  else s

/-- Closes the block collections with a margin behind the limit. -/
def closeMargins (limit : Nat) (tokens : Array Token) (margin : Nat) :
    List Nat → Array Token × Nat × List Nat
  | [] => (tokens, margin, [])
  | outer :: rest =>
    if limit < margin then closeMargins limit (tokens.push .blockEnd) outer rest
    else (tokens, margin, outer :: rest)

def closeBlocks (s : Scan) (limit : Nat) : Scan :=
  if s.inFlow then s
  else
    let (tokens, margin, margins) := closeMargins limit s.tokens s.margin s.margins
    { s with tokens := tokens, margin := margin, margins := margins }

/-- Drops blanks, comments and line breaks, and a byte order mark at the beginning of a line. A key
may begin on a new line; where one may begin, tabs do not count as blanks. -/
def dropTrivia (flow allowed comment : Bool) : List Cell → Bool × List Cell
  | [] => (allowed, [])
  | cell :: rest =>
    let c := cell.char
    if isBreak c then dropTrivia flow (allowed || !flow) false rest
    else if c = endMark then (allowed, cell :: rest)
    else if comment then dropTrivia flow allowed true rest
    else if c = '#' then dropTrivia flow allowed true rest
    else if c = ' ' || (c = '\t' && (flow || !allowed)) || (c = orderMark && cell.column = 0) then
      dropTrivia flow allowed false rest
    else (allowed, cell :: rest)

/-- A token that ends all block collections. -/
def boundary? (s : Scan) (t : Token) : Option Scan := do
  let s ← (s.closeBlocks 0).dropKey?
  some ((s.allowKey false).push t)

def openFlow? (s : Scan) (here : Cell) (t : Token) : Option Scan := do
  let s ← s.saveKey? here
  some ({ s with key := none, outerKeys := s.key :: s.outerKeys, keyAllowed := true }.push t)

def closeFlow? (s : Scan) (t : Token) : Option Scan := do
  let s ← s.dropKey?
  let s := match s.outerKeys with
    | [] => s
    | key :: outer => { s with key := key, outerKeys := outer }
  some ((s.allowKey false).push t)

def flowEntry? (s : Scan) : Option Scan := do
  let s ← s.dropKey?
  some ((s.allowKey true).push .flowEntry)

/-- A mark in front of an entry or a key, which outside flow collections stands where keys may. -/
def blockMark? (s : Scan) (here : Cell) (start t : Token) (allowed : Bool) : Option Scan := do
  if !s.inFlow && !s.keyAllowed then none
  else
    let s ← (s.openBlock here.column s.tokens.size start).dropKey?
    some ((s.allowKey allowed).push t)

/-- The colon in front of a value: what a possible key is known by. -/
def value? (s : Scan) (here : Cell) : Option Scan :=
  match s.key with
  | some key =>
    let s := s.insertAt key.token .key
    let s := s.openBlock key.cell.column key.token .blockMappingStart
    some ({ s with key := none, keyAllowed := false }.push .value)
  | none =>
    if !s.inFlow && !s.keyAllowed then none
    else
      let s := s.openBlock here.column s.tokens.size .blockMappingStart
      some ((s.allowKey (!s.inFlow)).push .value)

/-- A name behind its mark; what follows must not look like a part of it. -/
def name? (rest : List Cell) : Option (String × List Cell) :=
  let (name, behind) := spanText isNameChar rest
  let c := ahead behind
  if name.isEmpty || !(isGap c || "?:,]\x7d%@\x60".toList.contains c) then none
  else some (String.ofList name, behind)

/-- Whether plain text may begin with a character in front of another. -/
def beginsPlain (flow : Bool) (c next : Char) : Bool :=
  !(isGap c || "-?:,[]\x7b\x7d#&*!|>'\"%@\x60".toList.contains c) ||
    (c = '-' && !isBlank next) || (!flow && (c = '?' || c = ':') && !isGap next)

/-- A token that may be a key, with no other key behind it on the line. -/
def keyToken? {α : Type} (s : Scan) (here : Cell) (found : Option (α × List Cell))
    (token : α → Token) : Option (Scan × List Cell) := do
  let s ← s.saveKey? here
  let (content, behind) ← found
  some ((s.allowKey false).push (token content), behind)

def block? (s : Scan) (folded : Bool) (rest : List Cell) : Option (Scan × List Cell) := do
  let s ← s.dropKey?
  let (text, behind) ← Scalar.block folded s.margin rest
  let style := if folded then ScalarStyle.folded else .literal
  some ((s.allowKey true).push (.scalar (String.ofList text) style), behind)

def plain? (s : Scan) (here : Cell) (rest : List Cell) : Option (Scan × List Cell) := do
  let s ← s.saveKey? here
  let ((text, broken), behind) ← Scalar.plain s.inFlow s.margin [] (.spaces []) rest
  some ((s.allowKey broken).push (.scalar (String.ofList text) .plain), behind)

/-- One token, at its first cell. -/
def token? (s : Scan) (here : Cell) (tail : List Cell) : Option (Scan × List Cell) :=
  let rest := here :: tail
  let next := ahead tail
  let flow := s.inFlow
  let with_ (s : Option Scan) (behind : List Cell) := s.map (·, behind)
  if here.column = 0 && here.char = '%' then do
    let (directive, behind) ← Directive.read? tail
    with_ (s.boundary? (.directive directive)) behind
  else if isMark '-' rest then with_ (s.boundary? .documentStart) (tail.drop 2)
  else if isMark '.' rest then with_ (s.boundary? .documentEnd) (tail.drop 2)
  else match here.char with
  | '[' => with_ (s.openFlow? here .flowSequenceStart) tail
  | '\x7b' => with_ (s.openFlow? here .flowMappingStart) tail
  | ']' => with_ (s.closeFlow? .flowSequenceEnd) tail
  | '\x7d' => with_ (s.closeFlow? .flowMappingEnd) tail
  | ',' => with_ s.flowEntry? tail
  | '*' => s.keyToken? here (name? tail) .alias
  | '&' => s.keyToken? here (name? tail) .anchor
  | '!' => s.keyToken? here (TagName.read? flow rest) .tag
  | '\'' =>
    s.keyToken? here (Scalar.quoted false [] tail) fun text => .scalar (String.ofList text) .quoted
  | '"' =>
    s.keyToken? here (Scalar.quoted true [] tail) fun text => .scalar (String.ofList text) .quoted
  | c =>
    if c = '-' && isGap next then with_ (s.blockMark? here .blockSequenceStart .blockEntry true) tail
    else if c = '?' && (flow || isGap next) then
      with_ (s.blockMark? here .blockMappingStart .key (!flow)) tail
    else if c = ':' && (flow || isGap next) then with_ (s.value? here) tail
    else if c = '|' && !flow then s.block? false tail
    else if c = '>' && !flow then s.block? true tail
    else if beginsPlain flow c next then s.plain? here rest
    else none

/-- The tokens that are certain at a fault: one that may still turn out to be a key is not known
before the next. -/
def certain (s : Scan) (here : Cell) : List Token :=
  let held := (s.key :: s.outerKeys).filterMap fun key =>
    (key.filter (!·.isPast here)).map PossibleKey.token
  (s.tokens.take (held.foldl min s.tokens.size)).toList

/-- All tokens from a place on, up to the first fault. -/
def run (s : Scan) (rest : List Cell) : List Token :=
  match rest with
  | [] => s.tokens.toList
  | cell :: more =>
    let (allowed, behind) := dropTrivia s.inFlow s.keyAllowed false (cell :: more)
    match behind with
    | [] => s.certain cell
    | here :: tail =>
      let step : Option (Scan × Option (List Cell)) := do
        let s ← (s.allowKey allowed).dropPastKeys? here
        let s := s.closeBlocks (here.column + 1)
        if here.char = endMark then
          let s ← s.boundary? .streamEnd
          some (s, none)
        else
          let (s, behind) ← s.token? here tail
          some (s, some behind)
      match step with
      | none => s.certain cell
      | some (s, none) => s.tokens.toList
      | some (s, some behind) => run s (within more behind)
  termination_by rest.length
  decreasing_by
    exact Nat.lt_of_le_of_lt (length_within_le _ _) (by simp)

end Scan

/-- The tokens of a text up to its first fault; a text without a fault ends in the token for the end
of the stream. -/
def Token.ofText (text : String) : List Token :=
  let cs := text.toList
  if cs.all isAllowed then Scan.run {} (cells cs) else []

end QueryLint.Yaml
