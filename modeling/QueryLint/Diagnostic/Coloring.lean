import QueryLint.Diagnostic.Basic

/-! Colours for findings. A library puts texts in colour; here is what is asked of it. -/

set_option autoImplicit false

namespace QueryLint

inductive Color where
  | brightBlue | brightYellow | brightRed
  deriving DecidableEq, Repr

/-- What puts a text in colour; `ansi` tells whether escape sequences are written at all. -/
class Coloring where
  paint (ansi : Bool) (color : Color) (text : List Char) : List Char

def Severity.color : Severity → Color
  | .info => .brightBlue
  | .warning => .brightYellow
  | .error => .brightRed

/-- How colours are shown; `ansi` tells whether escape sequences are written at all. -/
structure Paint where
  ansi : Bool
  deriving DecidableEq, Repr

namespace Paint

/-- The character that begins escape sequences. -/
def escape : Char := '\x1b'

def paint [Coloring] (p : Paint) (level : Severity) (text : List Char) : List Char :=
  Coloring.paint p.ansi level.color text

end Paint

end QueryLint
