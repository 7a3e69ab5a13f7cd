import QueryLint.Pattern

/-! Patterns without the places they were read at.

The extents in a tree only serve the reports of what is refused. Two trees that agree without them
mean the same: working in the flags gives one node for both, or none for either.
-/

set_option autoImplicit false

namespace QueryLint.Pattern

/-- The extent that stands in for every other. -/
def Extent.blank : Extent := ⟨⟨1, 0⟩, ⟨1, 0⟩⟩

def Literal.bare (l : Literal) : Literal :=
  { l with extent := .blank }

def ClassEscape.bare : ClassEscape → ClassEscape
  | .perl kind negated _ => .perl kind negated .blank
  | .property query negated _ => .property query negated .blank

def ClassSet.bare : ClassSet → ClassSet
  | .empty => .empty
  | .literal l => .literal l.bare
  | .range first last => .range first.bare last.bare
  | .ascii kind negated _ => .ascii kind negated .blank
  | .escape e => .escape e.bare
  | .bracketed negated _ inner => .bracketed negated .blank inner.bare
  | .union left right => .union left.bare right.bare
  | .combined operator left right => .combined operator left.bare right.bare

def Syntax.bare : Syntax → Syntax
  | .empty => .empty
  | .flags items => .flags items
  | .literal l => .literal l.bare
  | .dot _ => .dot .blank
  | .assertion kind => .assertion kind
  | .escape e => .escape e.bare
  | .bracketed negated _ inner => .bracketed negated .blank inner.bare
  | .repeated inner least most => .repeated inner.bare least most
  | .group items inner => .group items inner.bare
  | .either left right => .either left.bare right.bare
  | .sequence first second => .sequence first.bare second.bare

theorem toOption_bind {ε α β : Type} (answer : Except ε α) (f : α → Except ε β) :
    (answer >>= f).toOption = answer.toOption.bind fun a => (f a).toOption := by
  cases answer <;> rfl

namespace Node

theorem closeAndNegate_extent (flags : Flags) (negated : Bool) (chars : CharSet)
    (extent extent' : Extent) :
    (closeAndNegate flags negated extent chars).toOption =
      (closeAndNegate flags negated extent' chars).toOption := by
  simp only [closeAndNegate, apply_ite Except.toOption]
  rfl

theorem escapeSet_bare (flags : Flags) (e : ClassEscape) :
    (escapeSet flags e.bare).toOption = (escapeSet flags e).toOption := by
  cases e with
  | perl kind negated extent =>
    simp only [ClassEscape.bare, escapeSet, apply_ite Except.toOption]
    rfl
  | property query negated extent =>
    simp only [ClassEscape.bare, escapeSet]
    split
    · rfl
    · split
      · rfl
      · exact closeAndNegate_extent ..

theorem classCode_bare (flags : Flags) (l : Literal) :
    (classCode flags l.bare).toOption = (classCode flags l).toOption := by
  simp only [classCode, apply_ite Except.toOption]
  rfl

theorem classSet_bare (flags : Flags) (set : ClassSet) :
    (classSet flags set.bare).toOption = (classSet flags set).toOption := by
  induction set with
  | empty => rfl
  | literal l => simp only [ClassSet.bare, classSet, toOption_bind, classCode_bare]
  | range first last => simp only [ClassSet.bare, classSet, toOption_bind, classCode_bare]
  | ascii kind negated extent => exact closeAndNegate_extent ..
  | escape e => exact escapeSet_bare flags e
  | bracketed negated extent inner ih =>
    simp only [ClassSet.bare, classSet, toOption_bind, ih]
    congr
    funext chars
    exact closeAndNegate_extent ..
  | union left right ihLeft ihRight =>
    simp only [ClassSet.bare, classSet, toOption_bind, ihLeft, ihRight]
  | combined operator left right ihLeft ihRight =>
    simp only [ClassSet.bare, classSet, toOption_bind, ihLeft, ihRight]

theorem literal_bare (flags : Flags) (l : Literal) :
    (literal flags l.bare).toOption = (literal flags l).toOption := by
  simp only [literal, apply_ite Except.toOption]
  rfl

/-- The node of a tree does not depend on the places in it. -/
theorem ofSyntax_bare (flags : Flags) (tree : Syntax) :
    (ofSyntax flags tree.bare).toOption = (ofSyntax flags tree).toOption := by
  induction tree generalizing flags with
  | empty | flags | assertion => rfl
  | literal l => simp only [Syntax.bare, ofSyntax, toOption_bind, literal_bare]
  | dot extent =>
    simp only [Syntax.bare, ofSyntax]
    split <;> rfl
  | escape e => simp only [Syntax.bare, ofSyntax, toOption_bind, escapeSet_bare]
  | bracketed negated extent inner =>
    simp only [Syntax.bare, ofSyntax, toOption_bind, classSet_bare]
    congr
    funext chars
    rw [closeAndNegate_extent]
  | repeated inner least most ih => simp only [Syntax.bare, ofSyntax, toOption_bind, ih]
  | group items inner ih => simp only [Syntax.bare, ofSyntax, toOption_bind, ih]
  | either left right ihLeft ihRight | sequence left right ihLeft ihRight =>
    simp only [Syntax.bare, ofSyntax, toOption_bind, ihLeft, ihRight]

end Node

end QueryLint.Pattern
