import QueryLint.Pattern.Engine
import QueryLint.Pattern.Program
import QueryLint.Pattern.Reader

/-! Patterns over Unicode text. -/

set_option autoImplicit false

namespace QueryLint.Pattern

/-- Reads a pattern and works in its flags. -/
def node (pattern : String) : Except Error Node := do
  let tree ← Syntax.read pattern
  match Node.ofSyntax {} tree with
  | .ok (node, _) => pure node
  | .error (fault, extent) => throw { pattern := pattern, extent := extent, fault := fault }

/-- The test for a match of a pattern anywhere in a text, or what is wrong with the pattern. -/
def compile (pattern : String) : Except Error (String → Bool) := do
  let node ← node pattern
  if Program.maxSteps < node.stepCount then
    throw { pattern := pattern, extent := ⟨⟨1, 0⟩, ⟨1, 0⟩⟩, fault := .tooLarge }
  else
    let program := Program.ofNode node
    pure fun text => program.search text.toList

/-- The engine that the program comes with. -/
@[reducible] def engine : Engine where
  compile pattern := (compile pattern).mapError Error.message

end QueryLint.Pattern
