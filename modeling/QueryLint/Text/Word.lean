/-! Words compared without regard to case. -/

set_option autoImplicit false

namespace QueryLint.Text

/-- Lower case as far as ASCII words can tell: besides the capital letters only the Kelvin sign
has an ASCII letter as its lower case. -/
def lowerChar (c : Char) : Char :=
  if c = '\u212a' then 'k' else c.toLower

def lower (s : String) : String :=
  String.ofList (s.toList.map lowerChar)

end QueryLint.Text
