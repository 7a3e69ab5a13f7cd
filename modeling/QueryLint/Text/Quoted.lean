import QueryLint.Unicode.Properties

/-! Quoted and escaped text in messages. -/

set_option autoImplicit false

namespace QueryLint.Text

/-- Lower-case hexadecimal digits. -/
def hex (n : Nat) : List Char :=
  Nat.toDigits 16 n

/-- An escape that names a character by its code point. -/
def codePointEscape (c : Char) : List Char :=
  '\\' :: 'u' :: '\x7b' :: (hex c.toNat ++ ['\x7d'])

/-- A character inside a quoted text: quotes, backslashes and whatever has no visible form of its
own are escaped, an apostrophe is not. -/
def quotedChar (c : Char) : List Char :=
  if c = '\x00' then ['\\', '0']
  else if c = '\t' then ['\\', 't']
  else if c = '\r' then ['\\', 'r']
  else if c = '\n' then ['\\', 'n']
  else if c = '\\' then ['\\', '\\']
  else if c = '"' then ['\\', '"']
  else if Unicode.isExtending c || !Unicode.isPrintable c then codePointEscape c
  else [c]

/-- A text between double quotes. -/
def quoted (s : String) : String :=
  String.ofList ('"' :: (s.toList.flatMap quotedChar ++ ['"']))

/-- A single character in visible ASCII. -/
def asciiChar (c : Char) : String :=
  String.ofList <|
    if c = '\t' then ['\\', 't']
    else if c = '\r' then ['\\', 'r']
    else if c = '\n' then ['\\', 'n']
    else if c = '\'' then ['\\', '\'']
    else if c = '"' then ['\\', '"']
    else if c = '\\' then ['\\', '\\']
    else if ' ' ≤ c && c ≤ '~' then [c]
    else codePointEscape c

end QueryLint.Text
