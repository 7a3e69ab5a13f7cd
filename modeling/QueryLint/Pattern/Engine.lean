/-! What the linter asks of a pattern engine.

Patterns are compiled by a library. All that is used of it is whether a text is a pattern, the report if
it is none, and the test for a match if it is one; whatever gives these is an engine.
-/

set_option autoImplicit false

namespace QueryLint.Pattern

/-- A pattern engine: the report on a text that is no pattern, or the test for a match anywhere. -/
class Engine where
  compile (pattern : String) : Except String (String → Bool)

/-- The engine that knows the answers for some texts, and takes no other for a pattern. -/
@[reducible] def Engine.ofAnswers (answers : List (String × Except String (String → Bool))) : Engine where
  compile pattern := (answers.lookup pattern).getD (.error s!"unknown pattern: {pattern}")

end QueryLint.Pattern
