import QueryLint.Literal.Quoted

/-! JSON texts.

Every reader takes the characters in front and returns those behind, with the proof that it took
some. Texts in quotes are kept as far as they can be: an escape may name one half of a surrogate
pair, and a text with a lone half has no characters, but is well formed. -/

set_option autoImplicit false

namespace QueryLint

/-- A JSON value. What a number is does not matter to anyone here. -/
inductive Json where
  | null
  | bool (b : Bool)
  | number
  | string (text : Option String)
  | array (items : List Json)
  | object (entries : List (Option String × Json))
  deriving Repr

namespace Json

/-- Characters that remain when at least one of `cs` was taken. -/
abbrev Fewer (cs : List Char) := { rest : List Char // rest.length < cs.length }

def isBlank (c : Char) : Bool := c = ' ' || c = '\n' || c = '\t' || c = '\r'

/-- Drops blanks in front. -/
def skip (cs : List Char) : List Char := cs.dropWhile isBlank

theorem length_skip_le (cs : List Char) : (skip cs).length ≤ cs.length :=
  List.Sublist.length_le (List.dropWhile_sublist _)

/-! Texts in quotes, as units of 16 bits where they are escaped and characters where not. -/

/-- What a backslash in front of a character stands for. -/
def escape? : Char → Option Nat
  | '"' => some 0x22
  | '\\' => some 0x5c
  | '/' => some 0x2f
  | 'b' => some 0x08
  | 'f' => some 0x0c
  | 'n' => some 0x0a
  | 'r' => some 0x0d
  | 't' => some 0x09
  | _ => none

/-- The unit behind a backslash. -/
def escaped (cs : List Char) : Option (Nat × Fewer cs) :=
  match cs with
  | [] => none
  | 'u' :: a :: b :: c :: d :: rest => do
    let n ← Literal.Quoted.hexValue? [a, b, c, d]
    some (n, ⟨rest, by simp only [List.length_cons]; omega⟩)
  | c :: rest => do
    let n ← escape? c
    some (n, ⟨rest, Nat.lt_succ_self _⟩)

/-- Units up to the closing quote. -/
def units (cs : List Char) : Option (List Nat × Fewer cs) :=
  match cs with
  | c :: rest =>
    if c = '"' then some ([], ⟨rest, Nat.lt_succ_self _⟩)
    else if c = '\\' then do
      let (n, ⟨r₁, _⟩) ← escaped rest
      let (more, ⟨r₂, _⟩) ← units r₁
      some (n :: more, ⟨r₂, by simp only [List.length_cons]; omega⟩)
    else if c.toNat < 0x20 then none
    else do
      let (more, ⟨r₁, _⟩) ← units rest
      some (c.toNat :: more, ⟨r₁, by simp only [List.length_cons]; omega⟩)
  | [] => none
  termination_by cs.length

/-- The characters of units, unless half of a surrogate pair stands alone. -/
def characters : List Nat → Option (List Char)
  | [] => some []
  | [n] => if n.isValidChar then some [Char.ofNat n] else none
  | high :: low :: rest =>
    if 0xd800 ≤ high && high < 0xdc00 && 0xdc00 ≤ low && low < 0xe000 then
      let n := 0x10000 + (high - 0xd800) * 0x400 + (low - 0xdc00)
      (characters rest).map (Char.ofNat n :: ·)
    else if high.isValidChar then (characters (low :: rest)).map (Char.ofNat high :: ·)
    else none

/-- A text behind its opening quote. -/
def text (cs : List Char) : Option (Option String × Fewer cs) := do
  let (found, rest) ← units cs
  some ((characters found).map String.ofList, rest)

/-! Numbers. -/

/-- One digit at least. -/
def digits? (cs : List Char) : Option (Fewer cs) :=
  match cs with
  | [] => none
  | c :: rest =>
    if c.isDigit then
      let behind := rest.dropWhile Char.isDigit
      some ⟨behind, Nat.lt_succ_of_le (List.Sublist.length_le (List.dropWhile_sublist _))⟩
    else none

/-- A fraction and an exponent, as far as they are there. -/
def fraction? (cs : List Char) : Option { rest : List Char // rest.length ≤ cs.length } :=
  match cs with
  | '.' :: r₁ => do
    let ⟨r₂, _⟩ ← digits? r₁
    some ⟨r₂, by simp only [List.length_cons]; omega⟩
  | cs => some ⟨cs, Nat.le_refl _⟩

def exponent? (cs : List Char) : Option { rest : List Char // rest.length ≤ cs.length } :=
  match cs with
  | c :: r₁ =>
    if c = 'e' || c = 'E' then
      match r₁ with
      | sign :: r₂ =>
        if sign = '+' || sign = '-' then do
          let ⟨rest, _⟩ ← digits? r₂
          some ⟨rest, by simp only [List.length_cons]; omega⟩
        else do
          let ⟨rest, _⟩ ← digits? (sign :: r₂)
          some ⟨rest, by simp only [List.length_cons] at *; omega⟩
      | [] => none
    else some ⟨c :: r₁, Nat.le_refl _⟩
  | [] => some ⟨[], Nat.le_refl _⟩

/-- A number without its sign; no zero stands in front of other digits. -/
def magnitude? (cs : List Char) : Option (Fewer cs) := do
  let ⟨r₁, _⟩ ← (match cs with
    | '0' :: rest => some ⟨rest, by simp⟩
    | cs => digits? cs : Option (Fewer cs))
  let ⟨r₂, _⟩ ← fraction? r₁
  let ⟨r₃, _⟩ ← exponent? r₂
  some ⟨r₃, by omega⟩

/-! Values. -/

/-- The word for a value. -/
def word? (cs : List Char) : Option (Json × Fewer cs) :=
  match cs with
  | 'n' :: 'u' :: 'l' :: 'l' :: rest => some (.null, ⟨rest, by simp only [List.length_cons]; omega⟩)
  | 't' :: 'r' :: 'u' :: 'e' :: rest =>
    some (.bool true, ⟨rest, by simp only [List.length_cons]; omega⟩)
  | 'f' :: 'a' :: 'l' :: 's' :: 'e' :: rest =>
    some (.bool false, ⟨rest, by simp only [List.length_cons]; omega⟩)
  | _ => none

/-- Takes a character behind blanks. -/
def mark? (c : Char) (cs : List Char) : Option (Fewer cs) :=
  match skip cs, length_skip_le cs with
  | d :: rest, h => if d = c then some ⟨rest, h⟩ else none
  | [], _ => none

mutual

/-- A value, with blanks in front of it. -/
def value (cs : List Char) : Option (Json × Fewer cs) :=
  match skip cs, length_skip_le cs with
  | [], _ => none
  | c :: r₁, h => do
    let (found, ⟨rest, _⟩) ← valueFrom c r₁
    some (found, ⟨rest, by simp only [List.length_cons] at h; omega⟩)
  termination_by 3 * cs.length + 1
  decreasing_by
    simp only [List.length_cons] at h
    omega

/-- A value that begins with a character. -/
def valueFrom (c : Char) (cs : List Char) :
    Option (Json × { rest : List Char // rest.length ≤ cs.length }) :=
  if c = '\x7b' then
    match mark? '\x7d' cs with
    | some ⟨rest, _⟩ => some (.object [], ⟨rest, by omega⟩)
    | none => do
      let (entries, ⟨rest, _⟩) ← members cs
      some (.object entries, ⟨rest, by omega⟩)
  else if c = '[' then
    match mark? ']' cs with
    | some ⟨rest, _⟩ => some (.array [], ⟨rest, by omega⟩)
    | none => do
      let (items, ⟨rest, _⟩) ← elements cs
      some (.array items, ⟨rest, by omega⟩)
  else if c = '"' then do
    let (found, ⟨rest, _⟩) ← text cs
    some (.string found, ⟨rest, by omega⟩)
  else if c = '-' then do
    let ⟨rest, _⟩ ← magnitude? cs
    some (.number, ⟨rest, by omega⟩)
  else if c.isDigit then do
    let ⟨rest, _⟩ ← magnitude? (c :: cs)
    some (.number, ⟨rest, by simp only [List.length_cons] at *; omega⟩)
  else do
    let (found, ⟨rest, _⟩) ← word? (c :: cs)
    some (found, ⟨rest, by simp only [List.length_cons] at *; omega⟩)
  termination_by 3 * cs.length + 3

/-- The items of an array up to its end. -/
def elements (cs : List Char) : Option (List Json × Fewer cs) := do
  let (item, ⟨r₁, _⟩) ← value cs
  match mark? ',' r₁ with
  | some ⟨r₂, _⟩ =>
    let (items, ⟨rest, _⟩) ← elements r₂
    some (item :: items, ⟨rest, by omega⟩)
  | none =>
    let ⟨rest, _⟩ ← mark? ']' r₁
    some ([item], ⟨rest, by omega⟩)
  termination_by 3 * cs.length + 2

/-- The entries of an object up to its end. -/
def members (cs : List Char) : Option (List (Option String × Json) × Fewer cs) := do
  let ⟨r₁, _⟩ ← mark? '"' cs
  let (name, ⟨r₂, _⟩) ← text r₁
  let ⟨r₃, _⟩ ← mark? ':' r₂
  let (found, ⟨r₄, _⟩) ← value r₃
  match mark? ',' r₄ with
  | some ⟨r₅, _⟩ =>
    let (entries, ⟨rest, _⟩) ← members r₅
    some ((name, found) :: entries, ⟨rest, by omega⟩)
  | none =>
    let ⟨rest, _⟩ ← mark? '\x7d' r₄
    some ([(name, found)], ⟨rest, by omega⟩)
  termination_by 3 * cs.length + 2

end

/-- Reads one value, with nothing but blanks around it. -/
def parse? (source : String) : Option Json := do
  let (found, ⟨rest, _⟩) ← value source.toList
  if (skip rest).isEmpty then some found else none

end Json

end QueryLint
