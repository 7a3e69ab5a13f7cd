import Mathlib
import QueryLint.Proofs.Expr.Move
import QueryLint.Proofs.Grammar.Sound
import QueryLint.Proofs.Token.Spacing

/-! Gaps do not matter to the parser.

Forgetting all places is a move, so the readers cannot see it: what they make of tokens without places
is the tree or the error they would make of the tokens, without its places. Two texts that differ in
their gaps alone have the same tokens without places.
-/

set_option autoImplicit false

namespace QueryLint

open Text.Span (Move)

/-- Forgets all places. -/
def Text.Span.Move.nowhere : Move :=
  ⟨fun _ => ⟨0, 0⟩, fun _ _ => rfl⟩

mutual

/-- Where a tree was does not matter once its places are forgotten. -/
theorem Expr.move_nowhere (φ : Move) : (e : Expr) → (e.move φ).move .nowhere = e.move .nowhere
  | .number .. | .string .. => rfl
  | .vector _ | .matrix .. => by simp [Expr.move, Selector.move, Matcher.move, Move.nowhere]
  | .subquery body _ _ _ _ | .paren body _ | .unary _ body _ => by
    simp only [Expr.move, Expr.move_nowhere φ body]
    rfl
  | .binary _ lhs rhs _ _ _ => by
    simp only [Expr.move, Expr.move_nowhere φ lhs, Expr.move_nowhere φ rhs]
    rfl
  | .call _ args _ _ => by
    simp only [Expr.move, Expr.moveAll_nowhere φ args]
    rfl
  | .aggregate _ none body _ _ => by
    simp only [Expr.move, Expr.move_nowhere φ body]
    rfl
  | .aggregate _ (some param) body _ _ => by
    simp only [Expr.move, Expr.move_nowhere φ param, Expr.move_nowhere φ body]
    rfl

theorem Expr.moveAll_nowhere (φ : Move) :
    (es : List Expr) → moveAll .nowhere (moveAll φ es) = moveAll .nowhere es
  | [] => rfl
  | e :: es => by simp only [moveAll, Expr.move_nowhere φ e, Expr.moveAll_nowhere φ es]

end

/-- A tree without its places, or the messages of the errors without theirs. -/
def Expr.withoutPlaces : Except (List ParseError) Expr → Except (List String) Expr
  | .ok e => .ok (e.move .nowhere)
  | .error errors => .error (errors.map ParseError.message)

theorem Expr.withoutPlaces_mapError (answer : Except ParseError Expr) :
    withoutPlaces (answer.mapError fun error => [error]) =
      (Parser.moved .nowhere (Expr.move .nowhere) answer).mapError fun error => [error.message] := by
  cases answer <;> rfl

theorem Token.map_move_nowhere (tokens : List Token) :
    tokens.map (Token.move .nowhere) =
      (tokens.map Token.face).map fun (kind, text) => ⟨kind, text, ⟨0, 0⟩⟩ := by
  rw [List.map_map]
  rfl

section

variable [Pattern.Engine]

/-- What is read from a text depends on the kinds and texts of its tokens, places apart. -/
theorem Expr.withoutPlaces_parse {source : String} {tokens : List Token}
    (clean : Token.items source = tokens.map .token) :
    withoutPlaces (Expr.parse source) =
      match Parser.whole ⟨.eof, "", ⟨0, 0⟩⟩ (tokens.map (Token.move .nowhere)) with
      | .ok e => .ok e
      | .error e => .error [e.message] := by
  have moved := Parser.whole_move .nowhere (Token.eof source) tokens
  have eof : (Token.eof source).move .nowhere = ⟨.eof, "", ⟨0, 0⟩⟩ := rfl
  rw [eof] at moved
  unfold Expr.parse
  rw [clean, Token.filterMap_fault?_map, Token.filterMap_token?_map, moved]
  cases Parser.whole (Token.eof source) tokens <;> rfl

/-- Blanks and comments may be put between, before and behind the tokens of a text, and changed there, as
long as no two tokens come together: the text is cut into the same tokens and gives the same tree or the
same messages. -/
theorem Expr.parse_spaced {source : String} {gap : List Char} {parts : List (Token × List Char)}
    (cut : Token.tokenize source = .ok (parts.map Prod.fst ++ [Token.eof source]))
    (separate : Token.Separate gap parts) :
    ∃ tokens, Token.tokenize (String.ofList (Token.spaced gap parts)) =
        .ok (tokens ++ [Token.eof (String.ofList (Token.spaced gap parts))]) ∧
      tokens.map Token.face = (parts.map Prod.fst).map Token.face ∧
      withoutPlaces (Expr.parse (String.ofList (Token.spaced gap parts))) =
        withoutPlaces (Expr.parse source) := by
  have clean : Token.items source = (parts.map Prod.fst).map .token := by
    unfold Token.tokenize at cut
    split at cut
    · next noFault =>
      rw [← List.append_cancel_right (Except.ok.inj cut)]
      exact Token.items_eq_map noFault
    · cases cut
  obtain ⟨tokens, scanned, same⟩ := (Token.allStand_of_scan clean).scan_spaced separate 0
  have clean' : Token.items (String.ofList (Token.spaced gap parts)) = tokens.map .token := by
    rw [Token.items, String.toList_ofList, scanned]
  refine ⟨tokens, Token.tokenize_eq_ok clean', same, ?_⟩
  rw [withoutPlaces_parse clean, withoutPlaces_parse clean', Token.map_move_nowhere,
    Token.map_move_nowhere, same]

end

/-- The gaps of `a+b`, filled. -/
theorem Expr.parse_spaced_sum :
    let _ := Pattern.Engine.ofAnswers []
    let parts : List (Token × List Char) :=
      [(⟨.identifier, "a", ⟨0, 1⟩⟩, ['#', '\x60', '\n']), (⟨.add, "+", ⟨1, 2⟩⟩, ['\t']),
        (⟨.identifier, "b", ⟨2, 3⟩⟩, ['\n', '#', 'c'])]
    Token.tokenize "a+b" = .ok (parts.map Prod.fst ++ [Token.eof "a+b"]) ∧
      Token.Separate [' '] parts ∧
      ∃ tokens, Token.tokenize (String.ofList (Token.spaced [' '] parts)) =
          .ok (tokens ++ [Token.eof (String.ofList (Token.spaced [' '] parts))]) ∧
        tokens.map Token.face = (parts.map Prod.fst).map Token.face ∧
        withoutPlaces (Expr.parse (String.ofList (Token.spaced [' '] parts))) =
          withoutPlaces (Expr.parse "a+b") := by
  intro _ parts
  have cut : Token.tokenize "a+b" = .ok (parts.map Prod.fst ++ [Token.eof "a+b"]) := by cbv
  have comment : Token.Gap false ['#', '\x60', '\n'] := @Token.Gap.comment _ ['\x60'] [] (by decide) .nil
  have separate : Token.Separate [' '] parts :=
    ⟨.blank rfl .nil, by simp, comment, by simp, .blank rfl .nil, by simp,
      .blank rfl (.opened rfl (by decide))⟩
  exact ⟨cut, separate, parse_spaced cut separate⟩

end QueryLint
