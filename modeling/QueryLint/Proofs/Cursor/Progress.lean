import Mathlib
import QueryLint.Proofs.Cursor.Clauses
import QueryLint.Proofs.Token.Tiling

/-! Reading by positions passes every token once, and never the end of input. -/

set_option autoImplicit false

namespace QueryLint

namespace Cursor

open QueryLint.Parser (Reads MayRead eat? isWord fail unexpected)
open ParseError (Context)

section

variable [Pattern.Engine]

/-- A call, whose name `t` and opening parenthesis are already taken. -/
def called (eof t : Token) {ts rest : List Token} (fewer : rest.length < ts.length) : MayRead Expr ts :=
  match Signature.lookup? t.text with
  | none => fail t.span (.unknownFunction t.text)
  | some function => do
    let ((args, close), ⟨r₁, fewer₁⟩) ← Parser.arguments eof .arguments rest
    let e ← Parser.buildCall function args (t.span.cover close.span)
    pure (e, ⟨r₁, atMost_of_fewer fewer fewer₁⟩)

/-- A call or a selector, whose name `t` is already taken. -/
def callOrName (eof t : Token) (ts : List Token) : MayRead Expr ts :=
  match eat? .leftParen ts with
  | some (_, ⟨_, fewer⟩) => called eof t fewer
  | none =>
    if Parser.isReserved (Text.lower t.text) then unexpected t .expression .anything
    else Parser.namedSelector eof t ts

/-- An operator of a chain, whose token `t` is already taken, and its right operand. -/
def operation (eof : Token) (op : BinaryOp) (t : Token) (lhs : Expr) (ts : List Token) : Reads Expr ts := do
  let (returnsBool, ⟨r₁, atMost₁⟩) := Parser.boolFlag op ts
  let (matching, ⟨r₂, atMost₂⟩) ← Parser.vectorMatching eof op r₁
  let (rhs, ⟨r₃, fewer₃⟩) ← Parser.expr eof op.rightLevel r₂
  let e ← Parser.buildBinary op t.span lhs rhs returnsBool matching
  pure (e, ⟨r₃, fewer_of_atMost atMost₁ atMost₂ fewer₃⟩)

theorem chain_cons {eof t : Token} {op : BinaryOp} {least : Nat} {lhs : Expr} {ts : List Token}
    (isOperator : BinaryOp.ofToken? t = some op) (tight : ¬ op.precedence < least) :
    Parser.chain eof least lhs (t :: ts) =
      continued (Parser.chain eof least) t (operation eof op t lhs ts) := by
  rw [Parser.chain]
  simp only [isOperator, tight, ↓reduceIte]
  rw [continued, operation]
  cases Parser.boolFlag op ts with
  | mk returnsBool r₁ =>
    dsimp only
    cases Parser.vectorMatching eof op r₁.1 with
    | error e => rfl
    | ok answer =>
      cases read : Parser.expr eof op.rightLevel answer.2.1 with
      | error e => simp only [bind, Except.bind, read]
      | ok right =>
        simp only [bind, Except.bind, read]
        cases Parser.buildBinary op t.span lhs right.1 returnsBool answer.1 <;> rfl

end

/-- A clause ends with the token that is known as its last. -/
theorem split_of_clause {used : List Token} {last : Token} {clause : Grouping}
    (isClause : Grammar.GroupingClause used last clause) : ∃ front, used = front ++ [last] := by
  cases isClause with
  | @labels word close used without found isWord listed =>
    cases listed with
    | @parens opening close used found isOpening items isClose =>
      exact ⟨word :: opening :: used, rfl⟩

theorem startsAggregate_eq {eof : Token} (ends : eof.kind = .eof) (ts : List Token) :
    Parser.startsAggregate ts = (decide ((ts.headD eof).kind = .leftParen) ||
      isWord "by" (ts.headD eof) || isWord "without" (ts.headD eof)) := by
  cases ts with
  | nil => simp [Parser.startsAggregate, ends, isWord_end ends]
  | cons t rest => rfl

section

variable [Pattern.Engine] {eof : Token} {ts : List Token} {fuel : Nat} (ends : eof.kind = .eof)
include ends

section

variable {nested : Nat → Scan Expr}
  (inside : ∀ least ts, ts.length < fuel →
    Agrees eof (nested least) ts (plain id (Parser.expr eof least ts)))
include inside

theorem arguments_agrees (context : Context) (enough : ts.length < fuel) :
    Agrees eof (listed fuel (nested 0) .rightParen context) ts
      (plain id (Parser.arguments eof context ts)) :=
  listed_agrees ends (by decide) (fun rest inBound => inside 0 rest (by omega))
    (Parser.arguments_eq eof context) (Nat.le_refl ts.length) enough

theorem call_agrees (t : Token) {paren : Token} {r₁ : List Token} {fewer : r₁.length < ts.length}
    (opens : eat? .leftParen ts = some (paren, ⟨r₁, fewer⟩)) (enough : ts.length < fuel) :
    Agrees eof (call nested fuel t) (t :: ts) (plain id (called eof t fewer)) := by
  refine Agrees.watched (fun _ => Nat.lt_succ_of_le) ?_
  rw [called]
  cases Signature.lookup? t.text with
  | none => exact Agrees.refuse _
  | some function =>
    have expected : Agrees eof _ ts _ := expect_agrees .leftParen .functionCall ends (by decide)
    rw [expect_of_eat opens] at expected
    refine (advance_agrees ends).next (expected.next ?_)
    refine (arguments_agrees ends inside .arguments (Nat.lt_trans fewer enough)).bind
      fun (args, close) r₂ left => ?_
    exact Agrees.built _

theorem aggregate_agrees (op : AggregateOp) (t : Token) (enough : ts.length < fuel) :
    Agrees eof (aggregate nested fuel op t) (t :: ts) (plain id (Parser.aggregation eof op t ts)) := by
  refine Agrees.watched (fun _ => Nat.lt_succ_of_le) ?_
  rw [Parser.aggregation]
  refine (advance_agrees ends).next ?_
  refine (grouping_agrees ends (Nat.le_of_lt enough)).bindView fun leading r₁ _ => ?_
  refine (expect_agrees .leftParen .aggregation ends (by decide)).bind fun _ r₂ _ => ?_
  refine (arguments_agrees ends inside .aggregation (by omega)).bind fun (args, close) r₃ _ => ?_
  cases leading with
  | some clause => exact Agrees.built _
  | none =>
    have trailing : Agrees eof (grouping fuel) r₃ _ := grouping_agrees ends (by omega)
    dsimp only [Option.map]
    cases read : Parser.grouping? eof r₃ with
    | error e =>
      rw [read] at trailing
      exact trailing.stop
    | ok answer =>
      obtain ⟨found, r₄, atMost₄⟩ := answer
      rw [read] at trailing
      cases found with
      | none => exact trailing.next (Agrees.built _)
      | some clause =>
        obtain ⟨clause, last⟩ := clause
        obtain ⟨isNone, -⟩ | ⟨clause', last', used, same, split, isClause⟩ := Grammar.grouping?_sound read
        · cases isNone
        · cases same
          -- The scan looks back for the last token of the clause, which it has just passed.
          obtain ⟨before, rfl⟩ := split_of_clause isClause
          have split : r₃ = before ++ last :: r₄ := by simpa using split
          exact Agrees.previous trailing split rfl (Agrees.built _)

theorem callOrName_agrees (t : Token) (enough : ts.length < fuel) :
    Agrees eof (if (ts.headD eof).kind = .leftParen then call nested fuel t
      else if Parser.isReserved (Text.lower t.text) then build (unexpected t .expression .anything)
      else selector fuel (some t)) (t :: ts) (plain id (callOrName eof t ts)) := by
  rw [callOrName]
  cases opens : eat? .leftParen ts with
  | some found =>
    obtain ⟨paren, r₁, fewer₁⟩ := found
    rw [if_pos (kind_ahead opens)]
    exact call_agrees ends inside t opens enough
  | none =>
    rw [if_neg (kind_ahead_ne ends (by decide) opens)]
    dsimp only
    cases Parser.isReserved (Text.lower t.text) with
    | true => exact Agrees.refuse _
    | false => exact namedSelector_agrees ends t enough

theorem ofWord_agrees {t : Token} (isWord : t.kind = .identifier) (enough : ts.length < fuel) :
    Agrees eof (ofWord nested fuel t) (t :: ts) (plain id (Parser.primary eof t ts)) := by
  rw [Parser.primary]
  simp only [isWord]
  refine (peekNth_agrees 1).next ?_
  rw [List.drop_succ_cons, List.drop_zero, ← startsAggregate_eq ends]
  cases Parser.numberWord? (Text.lower t.text) with
  | some value => exact (advance_agrees ends).next (Agrees.pure _)
  | none =>
    have otherwise := callOrName_agrees ends inside t enough
    cases AggregateOp.ofName? t.text with
    | none => exact otherwise
    | some op =>
      cases Parser.startsAggregate ts with
      | false => exact otherwise
      | true => exact aggregate_agrees ends inside op t enough

theorem primary_agrees (t : Token) (enough : ts.length < fuel) :
    Agrees eof (primary nested fuel) (t :: ts) (plain id (Parser.primary eof t ts)) := by
  refine Agrees.watched (fun _ => Nat.lt_succ_of_le) (peek_agrees.next ?_)
  rw [List.headD_cons]
  by_cases isWord : t.kind = .identifier
  · simp only [isWord]
    exact ofWord_agrees ends inside isWord enough
  rw [Parser.primary]
  cases kind : t.kind
  case identifier => exact absurd kind isWord
  case number =>
    refine (advance_agrees ends).next ?_
    exact Agrees.build fun value => Agrees.pure _
  case string =>
    refine (advance_agrees ends).next ?_
    exact Agrees.build fun value => Agrees.pure _
  case leftParen =>
    refine (advance_agrees ends).next ?_
    refine (inside 0 ts enough).bind fun e r₁ _ => ?_
    exact (expect_agrees .rightParen .parentheses ends (by decide)).bind fun close r₂ _ => Agrees.pure _
  case leftBrace => exact (bareSelector_agrees ends kind enough).last fun _ _ _ => rfl
  all_goals exact Agrees.refuse _

theorem operand_agrees (inBound : ts.length ≤ fuel) :
    Agrees eof (operand nested fuel) ts (plain id (Parser.operand eof ts)) := by
  refine Agrees.watched (fun _ => id) (peek_agrees.next ?_)
  cases ts with
  | nil =>
    -- At the end of input every reader down to the primary refuses, so none of them is checked.
    let refused : Reads Expr [] := unexpected eof .expression .anything
    have first : Agrees eof (primary nested fuel) [] (plain id refused) := by
      refine Agrees.watched (fun _ => id) (peek_agrees.next ?_)
      simp only [List.headD_nil, ends]
      exact Agrees.refuse _
    have both : Agrees eof (suffixed nested fuel) [] (plain id refused) :=
      Agrees.watched (fun _ => id) first.stop
    rw [Parser.operand, List.headD_nil, ends]
    exact both
  | cons t rest =>
    have enough : rest.length < fuel := inBound
    rw [Parser.operand, List.headD_cons]
    cases UnaryOp.ofKind? t.kind with
    | some op =>
      refine (advance_agrees ends).next ?_
      refine (inside _ rest enough).bind fun e r₁ _ => ?_
      exact Agrees.built _
    | none =>
      refine Agrees.watched (fun _ => id) ?_
      refine (primary_agrees ends inside t enough).bind fun e r₁ _ => ?_
      exact (suffixes_agrees ends e (by omega)).last fun _ _ _ => rfl

/-- The round of a chain whose operator `t` binds tightly enough. -/
theorem operation_agrees (op : BinaryOp) (t : Token) (lhs : Expr) (enough : ts.length < fuel) :
    Agrees eof (do
      let t ← advance
      let returnsBool ← boolFlag op
      let matching ← vectorMatching fuel op
      let rhs ← nested op.rightLevel
      let e ← build (Parser.buildBinary op t.span lhs rhs returnsBool matching)
      pure (Sum.inl e : Expr ⊕ Expr))
      (t :: ts) (plain .inl (operation eof op t lhs ts)) := by
  refine (advance_agrees ends).next ((boolFlag_agrees ends op).next ?_)
  rw [List.tail_cons, operation]
  obtain ⟨returnsBool, r₁, atMost₁⟩ := Parser.boolFlag op ts
  have inBound : r₁.length ≤ fuel := Nat.le_trans atMost₁ (Nat.le_of_lt enough)
  refine (vectorMatching_agrees ends inBound).bind fun matching r₂ _ => ?_
  refine (inside _ r₂ (by omega)).bind fun rhs r₃ _ => ?_
  exact Agrees.build fun e => Agrees.pure _

theorem chain_agrees (least : Nat) (lhs : Expr) (enough : ts.length < fuel) :
    Agrees eof (loop (operatorRound nested fuel least) fuel lhs) ts
      (plain id (Parser.chain eof least lhs ts)) := by
  suffices rounds : ∀ lhs ts, ts.length < fuel → ∃ answer,
      -- One round reads one operator, or finds that none goes on with the chain.
      Agrees eof (operatorRound nested fuel least lhs) ts answer ∧
        Round (fun lhs ts => plain id (Parser.chain eof least lhs ts)) lhs ts answer from
    loop_agrees (fun lhs ts inBound => rounds lhs ts (by omega)) lhs (Nat.le_refl ts.length) enough
  intro lhs ts enough
  cases ts with
  | nil =>
    refine ⟨.ok (.inr lhs, []), peek_agrees.next ?_, .leaves (by rw [Parser.chain]; rfl)⟩
    have noOperator : BinaryOp.ofToken? eof = none := by simp [BinaryOp.ofToken?, ends]
    simp only [List.headD_nil, noOperator]
    exact Agrees.pure _
  | cons t rest =>
    cases isOperator : BinaryOp.ofToken? t with
    | none =>
      refine ⟨.ok (.inr lhs, t :: rest), peek_agrees.next ?_, .leaves ?_⟩
      · simp only [List.headD_cons, isOperator]
        exact Agrees.pure _
      · rw [Parser.chain]
        simp only [isOperator]
        rfl
    | some op =>
      by_cases isLooser : op.precedence < least
      · refine ⟨.ok (.inr lhs, t :: rest), peek_agrees.next ?_, .leaves ?_⟩
        · simp only [List.headD_cons, isOperator, isLooser, ↓reduceIte]
          exact Agrees.pure _
        · rw [Parser.chain]
          simp only [isOperator, isLooser, ↓reduceIte]
          rfl
      · refine ⟨plain .inl (operation eof op t lhs rest), peek_agrees.next ?_,
          round_of_continued (chain_cons isOperator isLooser)⟩
        simp only [List.headD_cons, isOperator, isLooser, ↓reduceIte]
        exact operation_agrees ends inside op t lhs (Nat.lt_of_succ_lt enough)

end

theorem expr_agrees (least : Nat) (enough : ts.length < fuel) :
    Agrees eof (expr fuel least) ts (plain id (Parser.expr eof least ts)) := by
  induction fuel generalizing least ts with
  | zero => exact absurd enough (Nat.not_lt_zero _)
  | succ fuel ih =>
    have inside (least : Nat) (ts : List Token) (enough : ts.length < fuel) := ih least enough
    refine Agrees.watched (fun _ => id) ?_
    rw [Parser.expr]
    refine (operand_agrees ends inside (Nat.le_of_lt_succ enough)).bind fun lhs r₁ _ => ?_
    exact (chain_agrees ends inside least lhs (by omega)).last fun _ _ _ => rfl

theorem whole_agrees (enough : ts.length < fuel) :
    Agrees eof (whole fuel) ts ((Parser.whole eof ts).map (·, [])) := by
  intro inner
  refine (peek_agrees.next ?_) inner
  cases ts with
  | nil =>
    rw [List.headD_nil, if_pos ends]
    exact Agrees.refuse _
  | cons t rest =>
    rw [List.headD_cons, if_neg (inner t (List.mem_cons_self ..))]
    simp only [Parser.whole]
    have reads := expr_agrees ends 0 enough
    cases read : Parser.expr eof 0 (t :: rest) with
    | error e => exact (read ▸ reads).stop
    | ok answer =>
      -- What is left behind the expression decides: nothing is the end of input, all else is refused.
      obtain ⟨e, left, fewer⟩ := answer
      rw [read] at reads
      refine reads.next (peek_agrees.next ?_)
      cases left with
      | nil =>
        rw [List.headD_nil, if_neg (not_not_intro ends)]
        exact Agrees.pure e
      | cons t' rest' =>
        have isInner : t'.kind ≠ .eof := by
          obtain ⟨used, split, -⟩ := (reads inner []).eq_ok
          exact inner t' (by simp [split])
        rw [List.headD_cons, if_pos isInner]
        exact Agrees.refuse _

end

/-- Among the tokens of a text, reading by positions comes to the answer of `Expr.parse` and never to a
fault, with any fuel from the number of tokens on; in a text that is read, every token before the end of
input was passed once, in order. -/
theorem run_faultless [Pattern.Engine] {source : String} {tokens : List Token} {fuel : Nat}
    (cut : Token.tokenize source = .ok tokens) (enough : tokens.length ≤ fuel) :
    (∃ e, Expr.parse source = .ok e ∧
      run tokens fuel = .ok (e, ⟨tokens.length - 1, tokens.dropLast⟩)) ∨
    ∃ error, Expr.parse source = .error [error] ∧ run tokens fuel = .error (.refused error) := by
  obtain ⟨ts, clean, rfl⟩ := Token.exists_of_tokenize cut
  have inner : Inner ts := fun t isRead =>
    Token.kind_ne_eof (clean ▸ List.mem_map_of_mem isRead : .token t ∈ Token.items source)
  have enough : ts.length < fuel := by
    simp only [List.length_append, List.length_singleton] at enough
    omega
  have meets : Meets [] ts _ (run (ts ++ [Token.eof source]) fuel) := whole_agrees rfl enough inner []
  have parsed : Expr.parse source = (Parser.whole (Token.eof source) ts).mapError ([·]) := by
    rw [Expr.parse, clean, Token.filterMap_fault?_map, Token.filterMap_token?_map]
    cases Parser.whole (Token.eof source) ts <;> rfl
  cases answer : Parser.whole (Token.eof source) ts with
  | error e =>
    rw [answer] at meets parsed
    exact .inr ⟨e, parsed, meets.eq_error⟩
  | ok e =>
    rw [answer] at meets parsed
    obtain ⟨used, split, given⟩ := meets.eq_ok
    refine .inl ⟨e, parsed, given.trans ?_⟩
    simp [split, after]

/-- The clause behind the arguments makes a scan look back at the token before its position. -/
theorem run_faultless_sum :
    let _ := Pattern.Engine.ofAnswers []
    let tokens : List Token :=
      [⟨.identifier, "sum", ⟨0, 3⟩⟩, ⟨.leftParen, "(", ⟨3, 4⟩⟩, ⟨.identifier, "a", ⟨4, 5⟩⟩,
        ⟨.rightParen, ")", ⟨5, 6⟩⟩, ⟨.identifier, "by", ⟨7, 9⟩⟩, ⟨.leftParen, "(", ⟨10, 11⟩⟩,
        ⟨.identifier, "b", ⟨11, 12⟩⟩, ⟨.rightParen, ")", ⟨12, 13⟩⟩, ⟨.eof, "", ⟨13, 13⟩⟩]
    Token.tokenize "sum(a) by (b)" = .ok tokens ∧ tokens.length ≤ 9 ∧
      ∃ e, Expr.parse "sum(a) by (b)" = .ok e ∧ run tokens 9 = .ok (e, ⟨8, tokens.dropLast⟩) := by
  intro _ tokens
  have cut : Token.tokenize "sum(a) by (b)" = .ok tokens := by cbv
  have enough : tokens.length ≤ 9 := by decide
  refine ⟨cut, enough, ?_⟩
  obtain passed | ⟨error, failed, -⟩ := run_faultless cut enough
  · exact passed
  · have reads : (Expr.parse "sum(a) by (b)").isOk = true := by cbv
    rw [failed] at reads
    cases reads

end Cursor

end QueryLint
