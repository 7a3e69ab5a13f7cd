import QueryLint.Expr.Parser

/-! Lists of items with commas between them.

Labels, conditions and arguments are listed in one form: items up to a closing token, with commas between them
and perhaps behind the last. `listReads` reads such a list with any item and any closing token, and the readers
of the three lists are this one. So what holds of a list is said once, for `listReads`.
-/

set_option autoImplicit false

namespace QueryLint.Parser

open ParseError (Context)

section

variable {ts r₁ r₂ r₃ : List Token}

theorem fewer_trans (first : r₁.length < ts.length) (second : r₂.length < r₁.length) :
    r₂.length < ts.length :=
  Nat.lt_trans second first

theorem fewer_of_three (first : r₁.length < ts.length) (second : r₂.length < r₁.length)
    (third : r₃.length < r₂.length) : r₃.length < ts.length :=
  fewer_trans first (fewer_trans second third)

end

/-- What a reader of items up to a closing token answers, when `more` does from the next item on. -/
def listReads {α : Type} (eof : Token) (item : (ts : List Token) → Reads α ts) (close : Token.Kind)
    (context : Context) (more : (ts : List Token) → Reads (List α × Token) ts) (ts : List Token) :
    Reads (List α × Token) ts :=
  match eat? close ts with
  | some (t, rest) => .ok (([], t), rest)
  | none => do
    let (a, ⟨r₁, fewer₁⟩) ← item ts
    match eat? .comma r₁ with
    | some (_, ⟨r₂, fewer₂⟩) =>
      let ((found, t), ⟨r₃, fewer₃⟩) ← more r₂
      pure ((a :: found, t), ⟨r₃, fewer_of_three fewer₁ fewer₂ fewer₃⟩)
    | none =>
      let (t, ⟨r₂, fewer₂⟩) ← expect eof close context r₁
      pure (([a], t), ⟨r₂, fewer_trans fewer₁ fewer₂⟩)

/-- A label of a list. -/
def label (eof : Token) (context : Context) (ts : List Token) : Reads String ts := do
  let (t, rest) ← expect eof .identifier context ts
  pure (t.text, rest)

theorem labels_eq (eof : Token) (context : Context) (ts : List Token) : labels eof context ts =
    listReads eof (label eof context) .rightParen context (labels eof context) ts := by
  rw [labels, listReads]
  cases eat? .rightParen ts with
  | some closing => rfl
  | none => cases read : expect eof .identifier context ts <;> simp only [label, read] <;> rfl

theorem matchers_eq (eof : Token) (ts : List Token) : matchers eof ts =
    listReads eof (matcher eof) .rightBrace .labelMatching (matchers eof) ts := by
  rw [matchers]
  rfl

theorem arguments_eq [Pattern.Engine] (eof : Token) (context : Context)
    (ts : List Token) : arguments eof context ts =
    listReads eof (expr eof 0) .rightParen context (arguments eof context) ts := by
  rw [arguments]
  rfl

end QueryLint.Parser
