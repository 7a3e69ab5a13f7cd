import QueryLint.Proofs.Grammar.Complete
import QueryLint.Proofs.Grammar.Segments

/-! The builder has the last word.

A binary expression, a call or an aggregation is read in parts, and then its node is built, which can be
refused. When the parts are derived, the answer for the whole is that of the builder, whether it is a node
or an error.
-/

set_option autoImplicit false

namespace QueryLint.Grammar

open QueryLint.Parser
open ParseError (Context)

variable {built : Except ParseError Expr}

/-- What is left to read of a text decides that the whole is what was built. -/
theorem Yields.whole_eq [Pattern.Engine] {eof : Token} {t : Token} {ts : List Token}
    (yields : Yields (Parser.expr eof 0 (t :: ts)) built []) : whole eof (t :: ts) = built := by
  rw [whole]
  · cases built with
    | ok e =>
      obtain ⟨left, answer⟩ := yields
      rw [answer]
      rfl
    | error error =>
      rw [show Parser.expr eof 0 (t :: ts) = .error error from yields]
      rfl
  · simp

theorem suffixes_end (eof : Token) (e : Expr) : Gives (Parser.suffixes eof e []) e [] := by
  rw [Parser.suffixes]
  exact Gives.pure _

variable [Pattern.Engine]

/-- An expression that is no more than one primary expression. -/
theorem Yields.of_primary {eof t : Token} {ts : List Token} (noSign : UnaryOp.ofKind? t.kind = none)
    (yields : Yields (Parser.primary eof t ts) built []) :
    Yields (Parser.expr eof 0 (t :: ts)) built [] := by
  have operand : Yields (Parser.operand eof (t :: ts)) built [] := by
    rw [Parser.operand, noSign]
    exact yields.bind fun e left => .bind (suffixes_end eof e) fun _ => Gives.pure _
  rw [Parser.expr]
  exact operand.bind fun e left =>
    .bind (chain_stop eof e (by simp)) fun _ => Gives.pure _

/-- An operand, an operator without a clause and all of the rest. -/
theorem whole_binary {lhs rhs : Expr} {op : BinaryOp} {t : Token} {left flag right : List Token}
    {returnsBool : Bool} (derivedLhs : Derives (.operand lhs) left (some t))
    (isOperator : BinaryOp.ofToken? t = some op) (isFlag : BoolFlag op (ahead right none) flag returnsBool)
    (noClause : NotAhead (fun t => (matchingWord? t).isSome) (ahead right none))
    (derivedRhs : Derives (.expr op.rightLevel rhs) right none) (eof : Token) :
    whole eof (left ++ t :: (flag ++ right)) = buildBinary op t.span lhs rhs returnsBool none := by
  obtain ⟨_, taken⟩ := boolFlag_complete isFlag right (by rw [ahead]; simp)
  have noMatching : Gives (vectorMatching eof op right) none right := by
    have clause : MatchingClause op (ahead right none) [] none := .absent noClause
    simpa using vectorMatching_complete clause eof right (by rw [ahead]; simp)
  have chained : Yields (Parser.chain eof 0 lhs (t :: (flag ++ right)))
      (buildBinary op t.span lhs rhs returnsBool none) [] := by
    rw [Parser.chain, isOperator]
    simp only [Nat.not_lt_zero, if_false]
    rw [taken]
    refine .behind noMatching fun _ => ?_
    refine .behind (derivedRhs.accepted eof [] _ (by simp) rfl) fun _ => ?_
    exact .build fun e => .bind (chain_stop eof e (by simp)) fun _ => Gives.pure _
  obtain ⟨first, tail, rfl, -⟩ := derivedLhs.begins
  rw [List.cons_append]
  refine Yields.whole_eq ?_
  rw [Parser.expr]
  refine .behind (derivedLhs.accepted eof _ _ (List.cons_append ..).symm rfl) fun _ => ?_
  exact chained.bind fun e left => Gives.pure _

/-- A call and nothing behind it. -/
theorem whole_call {t opening close : Token} {function : Signature} {args : List Expr} {used : List Token}
    (isName : IsName t) (noAggregate : AggregateOp.ofName? t.text = none)
    (isOpening : opening.kind = .leftParen) (isFunction : Signature.lookup? t.text = some function)
    (derived : Derives (.arguments args) used (some close)) (isClose : close.kind = .rightParen)
    (eof : Token) :
    whole eof (t :: opening :: (used ++ [close])) =
      buildCall function args (t.span.cover close.span) := by
  refine (Yields.of_primary (by simp [UnaryOp.ofKind?, isName.kind]) ?_).whole_eq
  rw [Parser.primary, isName.kind]
  simp only [isName.noNumber, noAggregate, isFunction]
  rw [eat?_cons _ isOpening]
  refine .behind (derived.accepted eof .arguments close [] _ rfl rfl isClose) fun _ => ?_
  exact .build fun e => Gives.pure _

/-- An aggregation with its grouping in front of the arguments, and nothing behind it. -/
theorem whole_aggregateLeading {t opening close last : Token} {op : AggregateOp} {grouping : Grouping}
    {args : List Expr} {clause used : List Token} (isName : IsName t)
    (isOperator : AggregateOp.ofName? t.text = some op) (isClause : GroupingClause clause last grouping)
    (isOpening : opening.kind = .leftParen) (derived : Derives (.arguments args) used (some close))
    (isClose : close.kind = .rightParen) (eof : Token) :
    whole eof (t :: (clause ++ opening :: (used ++ [close]))) =
      buildAggregate op args grouping (t.span.cover close.span) := by
  refine (Yields.of_primary (by simp [UnaryOp.ofKind?, isName.kind]) ?_).whole_eq
  rw [primary_aggregation eof isName isOperator (startsAggregate_clause isClause _), Parser.aggregation]
  refine .behind (grouping?_complete isClause eof _) fun _ => ?_
  refine .behind (expect_complete eof .aggregation _ isOpening) fun _ => ?_
  refine .behind (derived.accepted eof .aggregation close [] _ rfl rfl isClose) fun _ => ?_
  exact .build fun e => Gives.pure _

/-- An aggregation with its grouping behind the arguments. -/
theorem whole_aggregateTrailing {t opening close last : Token} {op : AggregateOp} {grouping : Grouping}
    {args : List Expr} {used clause : List Token} (isName : IsName t)
    (isOperator : AggregateOp.ofName? t.text = some op) (isOpening : opening.kind = .leftParen)
    (derived : Derives (.arguments args) used (some close)) (isClose : close.kind = .rightParen)
    (isClause : GroupingClause clause last grouping) (eof : Token) :
    whole eof (t :: opening :: (used ++ close :: clause)) =
      buildAggregate op args grouping (t.span.cover last.span) := by
  refine (Yields.of_primary (by simp [UnaryOp.ofKind?, isName.kind]) ?_).whole_eq
  rw [primary_aggregation eof isName isOperator (by simp [startsAggregate, isOpening]), Parser.aggregation]
  refine .behind (grouping?_absent eof (by simp [either?, isWord, isOpening])) fun _ => ?_
  refine .behind (expect_complete eof .aggregation _ isOpening) fun _ => ?_
  refine .behind (derived.accepted eof .aggregation close clause _ rfl rfl isClose) fun _ => ?_
  have behind := grouping?_complete isClause eof []
  rw [List.append_nil] at behind
  exact .behind behind fun _ => .build fun e => Gives.pure _

/-- The answer for a text without faults, when that for its tokens is known. -/
theorem parse_of_whole {source : String} {tokens : List Token}
    (items : Token.items source = tokens.map .token)
    (read : whole (Token.eof source) tokens = built) :
    Expr.parse source = built.mapError fun error => [error] := by
  unfold Expr.parse
  rw [items, Token.filterMap_fault?_map, Token.filterMap_token?_map]
  simp only [read]
  cases built <;> rfl

end QueryLint.Grammar
