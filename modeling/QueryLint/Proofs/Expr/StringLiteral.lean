import QueryLint.Proofs.Grammar.Complete
import QueryLint.Proofs.Grammar.Segments
import QueryLint.Proofs.Token.Literals

/-! Every text has a literal.

A literal that was written for a text is cut as one token, whatever stands around it, and read as the
text again. So it is an expression on its own, and behind a label and a sign it is the value that the
label is compared with.
-/

set_option autoImplicit false

namespace QueryLint

open Literal
open Text (byteSize)

namespace Token

/-! Cutting. -/

theorem shape_quote {quote : Char} {body : List Char} (isQuote : Quoted.IsQuote quote)
    (isBody : Quoted.Body quote body) (depth : Nat) (t : List Char) :
    shape depth quote (body ++ quote :: t) = (.token .string, body.length + 1) := by
  have other : quote ∉ punctuation ++ comparators := by
    rcases isQuote with rfl | rfl | rfl <;> decide
  have noColon : quote ≠ ':' := isQuote.ne (by decide)
  have quotes : (quote = '"' || quote = '\'' || quote = '\x60') = true := by
    simpa [Quoted.IsQuote, or_assoc] using isQuote
  rw [shape_eq_otherShape other, otherShape, if_neg (by simp [noColon]), if_pos quotes,
    closed_of_body isQuote isBody]
  rfl

/-- A written literal is cut as one string in front of everything. -/
theorem Cuts.literal {quote : Char} {value : String} (fits : Quoted.Fits quote value)
    {u x : List Char} {final depth offset : Nat} {tokens : List Token}
    (later : Cuts u final depth (offset + byteSize (Quoted.write quote value).toList) x tokens) :
    Cuts u final depth offset ((Quoted.write quote value).toList ++ x)
      (⟨.string, Quoted.write quote value,
        ⟨offset, offset + byteSize (Quoted.write quote value).toList⟩⟩ :: tokens) := by
  have isQuote := fits.1
  refine .first (by rw [Quoted.write, String.toList_ofList]) ?_ (isQuote.ne (by decide)) ?_ later
  · rcases isQuote with rfl | rfl | rfl <;> rfl
  · rw [List.append_assoc, List.singleton_append, shape_quote isQuote (Quoted.body_written fits)]
    simp

/-- A label, a sign and a literal in braces. -/
def equalText (label literal : String) : String :=
  "\x7b" ++ (label ++ ("=" ++ (literal ++ "\x7d")))

theorem shape_assign {quote : Char} (isQuote : Quoted.IsQuote quote) (depth : Nat) (rest : List Char) :
    shape depth '=' (quote :: rest) = (.token .assign, 0) := by
  have noEqual : quote ≠ '=' := isQuote.ne (by decide)
  have noTilde : quote ≠ '~' := isQuote.ne (by decide)
  simp [shape, pair, noEqual, noTilde]

theorem items_equalText {quote : Char} {value label : String} (fits : Quoted.Fits quote value)
    (isLabel : tokenize label = .ok [⟨.identifier, label, ⟨0, byteSize label.toList⟩⟩, eof label]) :
    let sign := 1 + byteSize label.toList
    let stop := sign + 1 + byteSize (Quoted.write quote value).toList
    items (equalText label (Quoted.write quote value)) =
      [⟨.leftBrace, "\x7b", ⟨0, 1⟩⟩, ⟨.identifier, label, ⟨1, sign⟩⟩, ⟨.assign, "=", ⟨sign, sign + 1⟩⟩,
        ⟨.string, Quoted.write quote value, ⟨sign + 1, stop⟩⟩,
        ⟨.rightBrace, "\x7d", ⟨stop, stop + 1⟩⟩].map .token := by
  intro sign stop
  have assign : shape 0 '=' ((Quoted.write quote value).toList ++ "\x7d".toList) = (.token .assign, 0) := by
    rw [Quoted.write, String.toList_ofList]
    exact shape_assign fits.1 0 _
  refine @Cuts.items_eq 0 _ _ ?_
  rw [equalText, String.toList_append, String.toList_append, String.toList_append, String.toList_append,
    ← List.append_nil "\x7d".toList]
  refine .first (c := '\x7b') rfl rfl (by decide) rfl (.name isLabel (by simp [Stops]; decide) ?_)
  refine .first (c := '=') rfl rfl (by decide) (by simpa using assign) (.literal fits ?_)
  exact .first (c := '\x7d') rfl rfl (by decide) rfl .done

end Token

/-! Reading. -/

theorem Parser.string_write {quote : Char} {value : String} (fits : Quoted.Fits quote value)
    (span : Text.Span) : Parser.string ⟨.string, Quoted.write quote value, span⟩ = .ok value := by
  rw [Parser.string, Quoted.read_write fits]

section

variable [Pattern.Engine]

/-- A label that must have a value selects series. -/
theorem Parser.finishSelector_equal {m : Matcher} (isEqual : m.op = .equal) (some : m.value ≠ "")
    (span : Text.Span) : Parser.finishSelector none [m] span = .ok (.vector ⟨none, [m], {}, span⟩) := by
  have rejects : Parser.acceptsEmpty m = .ok false := by
    rw [Parser.acceptsEmpty, isEqual]
    simpa using some
  exact Parser.finishSelector_single rejects none span

/-- Braces with one label and the literal it is compared with select by this label alone. -/
theorem Expr.parse_equalText {quote : Char} {value label : String} (fits : Quoted.Fits quote value)
    (some : value ≠ "")
    (isLabel : Token.tokenize label = .ok [⟨.identifier, label, ⟨0, byteSize label.toList⟩⟩, Token.eof label]) :
    let stop := 1 + byteSize label.toList + 1 + byteSize (Quoted.write quote value).toList
    Expr.parse (Token.equalText label (Quoted.write quote value)) =
      .ok (.vector ⟨none, [⟨label, .equal, value, ⟨1, stop⟩⟩], {}, ⟨0, stop + 1⟩⟩) := by
  intro stop
  let sign := 1 + byteSize label.toList
  let used : List Token := [⟨.identifier, label, ⟨1, sign⟩⟩, ⟨.assign, "=", ⟨sign, sign + 1⟩⟩,
    ⟨.string, Quoted.write quote value, ⟨sign + 1, stop⟩⟩]
  let opening : Token := ⟨.leftBrace, "\x7b", ⟨0, 1⟩⟩
  let close : Token := ⟨.rightBrace, "\x7d", ⟨stop, stop + 1⟩⟩
  have covered : Text.Span.cover ⟨1, sign⟩ ⟨sign + 1, stop⟩ = ⟨1, stop⟩ := by
    simp only [Text.Span.cover, Text.Span.mk.injEq]
    omega
  have around : opening.span.cover close.span = ⟨0, stop + 1⟩ := by
    simp only [Text.Span.cover, Text.Span.mk.injEq, opening, close]
    omega
  have condition : Grammar.Condition used
      ⟨label, .equal, value, Text.Span.cover ⟨1, sign⟩ ⟨sign + 1, stop⟩⟩ :=
    .compare rfl rfl rfl (Parser.string_write fits _)
  rw [covered] at condition
  have braces : Grammar.Braces (opening :: (used ++ [close])) opening close
      [⟨label, .equal, value, ⟨1, stop⟩⟩] :=
    .listed rfl (.last condition) rfl
  have derived := @Grammar.Derives.braces _ _ _ _ _ _ none braces (Parser.finishSelector_equal rfl some _)
  rw [around] at derived
  exact Grammar.parse_complete (Token.items_equalText fits isLabel) derived.primary_alone

/-- Every text can be written between quotes, and between backquotes if it has none itself. What is written
is cut as one token and read as the text; it is an expression of its own and, unless the text is empty, the
value that a label in braces must have. -/
theorem Expr.parse_write {quote : Char} {value : String} (fits : Quoted.Fits quote value) :
    let literal := Quoted.write quote value
    let size := byteSize literal.toList
    Token.tokenize literal = .ok [⟨.string, literal, ⟨0, size⟩⟩, Token.eof literal] ∧
      Quoted.read literal = .ok value ∧
      Expr.parse literal = .ok (.string value ⟨0, size⟩) ∧
      (value ≠ "" → ∀ label : String,
        Token.tokenize label = .ok [⟨.identifier, label, ⟨0, byteSize label.toList⟩⟩, Token.eof label] →
        let stop := 1 + byteSize label.toList + 1 + size
        Expr.parse (Token.equalText label literal) =
          .ok (.vector ⟨none, [⟨label, .equal, value, ⟨1, stop⟩⟩], {}, ⟨0, stop + 1⟩⟩)) := by
  intro literal size
  have cuts : Token.Cuts [] 0 0 0 (literal.toList ++ []) _ := .literal fits .done
  rw [List.append_nil, Nat.zero_add] at cuts
  refine ⟨Token.tokenize_eq_ok cuts.items_eq, Quoted.read_write fits, ?_, ?_⟩
  · have derived : Grammar.Derives (.primary (.string value ⟨0, size⟩)) [⟨.string, literal, ⟨0, size⟩⟩] none :=
      .string rfl (Parser.string_write fits _)
    exact Grammar.parse_complete cuts.items_eq derived.primary_alone
  · exact fun some label isLabel => parse_equalText fits some isLabel

end

/-- A text of quotes, a backslash, a newline and a longer character. -/
theorem Expr.parse_write_mixed :
    let _ := Pattern.Engine.ofAnswers []
    let value := "\"\\\n'é"
    let literal := Quoted.write '\'' value
    Quoted.Fits '\'' value ∧ literal = "'\"\\\\\\n\\'é'" ∧
      Quoted.read literal = .ok value ∧
      Expr.parse literal = .ok (.string value ⟨0, 11⟩) ∧
      Expr.parse (Token.equalText ":a" literal) =
        .ok (.vector ⟨none, [⟨":a", .equal, value, ⟨1, 15⟩⟩], {}, ⟨0, 16⟩⟩) := by
  intro _
  have fits : Quoted.Fits '\'' "\"\\\n'é" := ⟨.inr (.inl rfl), by decide⟩
  obtain ⟨-, isRead, parsed, compared⟩ := Expr.parse_write fits
  exact ⟨fits, by decide, isRead, parsed, compared (by decide) ":a" (by cbv)⟩

end QueryLint
