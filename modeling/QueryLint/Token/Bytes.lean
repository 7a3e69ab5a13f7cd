import QueryLint.Token.Lexer

/-! Cutting a query text byte by byte.

The scanner as it goes over the bytes of a text, by positions. Only one byte is skipped behind a backslash,
whatever character it belongs to, and a string that is not closed may lead beyond the last byte. Characters are
met in two places: where one is reported, and where the text of a token is taken. To cut a character is not
allowed in either, and gives no answer.
-/

set_option autoImplicit false

namespace QueryLint.Token.Bytes

open Text (Span)

/-- The bytes of a text, as the characters that have them for codes: the scanner tests for ASCII. -/
def codes (text : List Char) : List Char :=
  (text.flatMap String.utf8EncodeChar).map Char.ofUInt8

/-- The position behind blanks and comments; `comment` tells whether a comment is open. -/
def skipTrivia (bytes : List Char) (comment : Bool) (position : Nat) : Nat :=
  match _read : bytes[position]? with
  | none => position
  | some c =>
    if c = '\n' then skipTrivia bytes false (position + 1)
    else if comment || isSpace c then skipTrivia bytes comment (position + 1)
    else if c = '#' then skipTrivia bytes true (position + 1)
    else position
  termination_by bytes.length - position
  decreasing_by
    all_goals
      have := (List.getElem?_eq_some_iff.mp ‹_›).1
      omega

/-- Whether a string is closed, and where it ends, from a position behind its opening quote. -/
def stringEnd (bytes : List Char) (quote : Char) (position : Nat) : Bool × Nat :=
  match _read : bytes[position]? with
  | none => (false, min position bytes.length)
  | some c =>
    if c = '\\' && quote != '\x60' then stringEnd bytes quote (position + 2)
    else if c = '\n' && quote != '\x60' then (false, min (position + 1) bytes.length)
    else if c = quote then (true, position + 1)
    else stringEnd bytes quote (position + 1)
  termination_by bytes.length - position
  decreasing_by
    all_goals
      have := (List.getElem?_eq_some_iff.mp ‹_›).1
      omega

/-- What starts with the byte `c` at a position, and where it ends. -/
def shapeAt (bytes : List Char) (depth position : Nat) (c : Char) : Shape × Nat :=
  if c = '"' || c = '\'' || c = '\x60' then
    let (closed, stop) := stringEnd bytes c (position + 1)
    (if closed then .token .string else .fault .unterminatedString, stop)
  else
    let (kind, n) := shape depth c (bytes.drop (position + 1))
    (kind, position + 1 + n)

/-- A token with its text, or a fault, and where it ends. -/
def itemAt? (text : List Char) (start : Nat) : Shape × Nat → Option (Item × Nat)
  | (.token kind, stop) =>
    (Text.slice? start stop text).map fun cut => (.token ⟨kind, String.ofList cut, ⟨start, stop⟩⟩, stop)
  | (.fault .unterminatedString, stop) => some (.fault .unterminatedString ⟨start, stop⟩, stop)
  | (.fault (.unexpectedCharacter _), _) =>
    (Text.cutAt? start text).map fun (_, rest) =>
      let c := rest.headD '\ufffd'
      (.fault (.unexpectedCharacter c) ⟨start, start + c.utf8Size⟩, start + c.utf8Size)

theorem le_skipTrivia (bytes : List Char) (comment : Bool) (position : Nat) :
    position ≤ skipTrivia bytes comment position := by
  fun_induction skipTrivia bytes comment position <;> omega

theorem le_stringEnd (bytes : List Char) (quote : Char) (position : Nat) :
    min position bytes.length ≤ (stringEnd bytes quote position).2 := by
  fun_induction stringEnd bytes quote position <;> grind

theorem lt_shapeAt {bytes : List Char} {position : Nat} {c : Char} (read : bytes[position]? = some c)
    (depth : Nat) : position < (shapeAt bytes depth position c).2 := by
  have within := (List.getElem?_eq_some_iff.mp read).1
  have stringLe := le_stringEnd bytes c (position + 1)
  unfold shapeAt
  split
  · dsimp only
    omega
  · dsimp only
    omega

theorem lt_itemAt {text : List Char} {start stop next : Nat} {kind : Shape} {item : Item}
    (positive : start < stop) (made : itemAt? text start (kind, stop) = some (item, next)) : start < next := by
  cases kind with
  | token kind =>
    obtain ⟨cut, -, same⟩ := Option.map_eq_some_iff.mp made
    cases same
    exact positive
  | fault cause =>
    cases cause with
    | unterminatedString =>
      cases made
      exact positive
    | unexpectedCharacter c =>
      obtain ⟨cut, -, same⟩ := Option.map_eq_some_iff.mp made
      cases same
      exact Nat.lt_add_of_pos_right (Char.utf8Size_pos _)

/-- All items from a position on, if no character is cut. -/
def scan? (text : List Char) (depth position : Nat) : Option (List Item) :=
  let start := skipTrivia (codes text) false position
  match _read : (codes text)[start]? with
  | none => some []
  | some c =>
    let found := shapeAt (codes text) depth start c
    match _made : itemAt? text start found with
    | none => none
    | some (item, next) => (scan? text (depthAfter depth found.1) next).map (item :: ·)
  termination_by (codes text).length - position
  decreasing_by
    have := le_skipTrivia (codes text) false position
    have := (List.getElem?_eq_some_iff.mp ‹_›).1
    have := lt_itemAt (lt_shapeAt ‹_› depth) ‹_›
    omega

/-- The items of a text. -/
def items? (source : String) : Option (List Item) :=
  scan? source.toList 0 0

end QueryLint.Token.Bytes
