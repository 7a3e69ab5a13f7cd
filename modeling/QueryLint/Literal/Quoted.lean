import QueryLint.Text.Utf8

/-! String literals: the text between two quotes, with backslash escapes unless they are
backquotes. -/

set_option autoImplicit false

namespace QueryLint.Literal

/-- Why a text is no string literal. -/
inductive QuotedError where
  | empty
  | malformed
  | dangling
  | unknownEscape (c : Char)
  | badCode (digits : String)
  deriving DecidableEq, Repr

def QuotedError.message : QuotedError → String
  | .empty => "empty string literal"
  | .malformed => "malformed string literal"
  | .dangling => "invalid escape sequence at end of string"
  | .unknownEscape c => "unknown escape sequence: \\" ++ String.singleton c
  | .badCode digits => s!"invalid escape sequence: {digits}"

namespace Quoted

/-- The character an escape letter stands for. -/
def simple? : Char → Option Char
  | 'n' => some '\n'
  | 't' => some '\t'
  | 'r' => some '\r'
  | 'a' => some '\x07'
  | 'b' => some '\x08'
  | 'f' => some '\x0c'
  | 'v' => some '\x0b'
  | '\\' => some '\\'
  | '"' => some '"'
  | '\'' => some '\''
  | _ => none

/-- How many digits the code point behind an escape letter has. -/
def codeLength? : Char → Option Nat
  | 'x' => some 2
  | 'u' => some 4
  | 'U' => some 8
  | _ => none

def hexDigit? (c : Char) : Option Nat :=
  if '0' ≤ c ∧ c ≤ '9' then some (c.toNat - '0'.toNat)
  else if 'a' ≤ c ∧ c ≤ 'f' then some (c.toNat - 'a'.toNat + 10)
  else if 'A' ≤ c ∧ c ≤ 'F' then some (c.toNat - 'A'.toNat + 10)
  else none

/-- Value of hexadecimal digits. -/
def hexValue? (cs : List Char) : Option Nat :=
  cs.foldlM (fun n c => (hexDigit? c).map (n * 16 + ·)) 0

/-- Value of at least one hexadecimal digit, which a plus sign may precede. -/
def signedHex? : List Char → Option Nat
  | [] => none
  | ['+'] => none
  | '+' :: cs => hexValue? cs
  | cs => hexValue? cs

/-- The character with a code point, if there is one. -/
def scalar? (n : Nat) : Option Char :=
  if h : n.isValidChar then some (Char.ofNatAux n h) else none

/-- The character that the digits behind an escape letter name. -/
def code (length : Nat) (digits : List Char) : Except QuotedError Char :=
  if Text.byteSize digits ≠ length then .error (.badCode (String.ofList digits))
  else match (signedHex? digits).bind scalar? with
    | some c => .ok c
    | none => .error (.badCode (String.ofList digits))

/-- Replaces every escape by its character. -/
def unescape : List Char → Except QuotedError (List Char)
  | [] => .ok []
  | c :: rest =>
    if c ≠ '\\' then (unescape rest).map (c :: ·)
    else match rest with
      | [] => .error .dangling
      | e :: rest =>
        match simple? e, codeLength? e with
        | some c, _ => (unescape rest).map (c :: ·)
        | none, some n => do
          let c ← code n (rest.take n)
          let tail ← unescape (rest.drop n)
          pure (c :: tail)
        | none, none => .error (.unknownEscape e)
  termination_by cs => cs.length
  decreasing_by all_goals simp only [List.length_cons, List.length_drop]; omega

/-- Reads a literal together with its quotes; the first one decides whether escapes count. -/
def read (text : String) : Except QuotedError String :=
  let cs := text.toList
  match cs with
  | [] => .error .empty
  | quote :: _ =>
    match Text.slice? 1 (Text.byteSize cs - 1) cs with
    | none => .error .malformed
    | some body =>
      if quote = '\x60' then .ok (String.ofList body)
      else (unescape body).map String.ofList

end Quoted

end QueryLint.Literal
