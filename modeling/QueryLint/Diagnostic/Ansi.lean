import QueryLint.Diagnostic.Coloring

/-! Colours as terminals understand them: a sequence that starts the colour, and one that ends it. -/

set_option autoImplicit false

namespace QueryLint.Ansi

open Paint (escape)

/-- Ends every colour. -/
def reset : List Char := [escape, '[', '0', 'm']

def code : Color → List Char
  | .brightBlue => ['9', '4']
  | .brightYellow => ['9', '3']
  | .brightRed => ['9', '1']

/-- Starts a colour. -/
def opening (color : Color) : List Char :=
  escape :: '[' :: (code color ++ ['m'])

/-- Starts a colour anew behind every end of colour inside the text. -/
def reopen (start : List Char) : List Char → List Char
  | [] => []
  | c :: cs =>
    if reset.isPrefixOf (c :: cs) then reset ++ start ++ reopen start (cs.drop 3)
    else c :: reopen start cs
  termination_by cs => cs.length
  decreasing_by all_goals simp only [List.length_cons, List.length_drop]; omega

/-- A text in a colour, even when it is empty. -/
@[reducible] def coloring : Coloring where
  paint ansi color text :=
    if ansi then opening color ++ reopen (opening color) text ++ reset else text

end QueryLint.Ansi
