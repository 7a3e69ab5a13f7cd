import QueryLint.Proofs.Expr.Nodes
import QueryLint.Proofs.Grammar.Brackets

/-! The tokens of a node are an expression of their own.

Every node of a derived tree was derived from a stretch of the tokens. What a derivation asks of the
token behind it is always that something does not follow, so it also holds at the end of a text, or in
front of a comma or a closing parenthesis, and a chain of operators of one level is one of every lower
level. With both, the stretch is derived as a whole expression, and the tokens before it leave the
bracket depth as it was.
-/

set_option autoImplicit false

namespace QueryLint.Grammar

open QueryLint.Parser

/-! Other lookahead. -/

/-- The same lookahead, or none. -/
def Within (next' next : Option Token) : Prop :=
  ∀ t ∈ next', t ∈ next

theorem Within.none (next : Option Token) : Within none next := by
  intro t found
  cases found

theorem Within.ahead {next' next : Option Token} (within : Within next' next) (ts : List Token) :
    Within (ahead ts next') (ahead ts next) := by
  cases ts with
  | nil => exact within
  | cons t ts => exact fun _ found => found

/-- A token behind which an expression cannot go on: no clause, suffix or operator begins with it. -/
def closes (t : Token) : Bool :=
  isKind .rightParen t || isKind .comma t

theorem closes_iff {t : Token} : closes t = true ↔ t.kind = .rightParen ∨ t.kind = .comma := by
  simp [closes]

theorem isKind_of_closes {t : Token} (closed : closes t = true) {kind : Token.Kind}
    (other : kind ≠ .rightParen ∧ kind ≠ .comma) : isKind kind t = false := by
  rcases closes_iff.mp closed with same | same
  · simpa [isKind, same] using other.1.symm
  · simpa [isKind, same] using other.2.symm

theorem isWord_of_closes {t : Token} (closed : closes t = true) (word : String) :
    isWord word t = false := by
  rcases closes_iff.mp closed with same | same <;> simp [isWord, same]

theorem either?_of_closes {α : Type} {t : Token} (closed : closes t = true) (first second : String × α) :
    (either? first second t).isSome = false := by
  simp [either?, isWord_of_closes closed]

theorem startsSuffix_of_closes {t : Token} (closed : closes t = true) : startsSuffix t = false := by
  simp [startsSuffix, isKind_of_closes closed, isWord_of_closes closed]

theorem continuesChain_of_closes {t : Token} (closed : closes t = true) (least : Nat) :
    continuesChain least t = false := by
  rcases closes_iff.mp closed with same | same <;> simp [continuesChain, BinaryOp.ofToken?, same]

/-- The same lookahead, none, or a token that closes. -/
def Milder (next' next : Option Token) : Prop :=
  ∀ t ∈ next', t ∈ next ∨ closes t = true

theorem Within.milder {next' next : Option Token} (within : Within next' next) : Milder next' next :=
  fun t found => .inl (within t found)

theorem Milder.closing {t : Token} (closed : closes t = true) (next : Option Token) :
    Milder (some t) next := by
  intro _ found
  cases found
  exact .inr closed

theorem Milder.ahead {next' next : Option Token} (milder : Milder next' next) (ts : List Token) :
    Milder (ahead ts next') (ahead ts next) := by
  cases ts with
  | nil => exact milder
  | cons t ts => exact fun _ found => .inl found

theorem NotAhead.milder {test : Token → Bool} {next' next : Option Token} (missing : NotAhead test next)
    (milder : Milder next' next) (blind : ∀ t, closes t = true → test t = false) :
    NotAhead test next' := by
  intro t found
  rcases milder t found with same | closed
  · exact missing t same
  · exact blind t closed

theorem BoolFlag.milder {op : BinaryOp} {next' next : Option Token} {flag : List Token}
    {returnsBool : Bool} (clause : BoolFlag op next flag returnsBool) (milder : Milder next' next) :
    BoolFlag op next' flag returnsBool := by
  cases clause with
  | absent missing =>
    exact .absent fun comparison => (missing comparison).milder milder fun _ closed =>
      isWord_of_closes closed "bool"
  | present comparison isBool => exact .present comparison isBool

theorem Included.milder {next' next : Option Token} {used : List Token} {found : List String}
    (clause : Included next used found) (milder : Milder next' next) : Included next' used found := by
  cases clause with
  | absent missing =>
    exact .absent (missing.milder milder fun _ closed => isKind_of_closes closed (by decide))
  | listed list => exact .listed list

theorem MatchingClause.milder {op : BinaryOp} {next' next : Option Token} {used : List Token}
    {matching : Option Matching} (clause : MatchingClause op next used matching)
    (milder : Milder next' next) : MatchingClause op next' used matching := by
  cases clause with
  | absent missing =>
    exact .absent (missing.milder milder fun _ closed => either?_of_closes closed _ _)
  | plain isMatching list alone =>
    exact .plain isMatching list (alone.milder milder fun _ closed => either?_of_closes closed _ _)
  | grouped isMatching list isSide notSet others =>
    exact .grouped isMatching list isSide notSet (others.milder milder)

theorem Trailing.milder {close last : Token} {next' next : Option Token} {used : List Token}
    {grouping : Grouping} (clause : Trailing close next used last grouping)
    (milder : Milder next' next) : Trailing close next' used last grouping := by
  cases clause with
  | absent missing =>
    exact .absent (missing.milder milder fun _ closed => either?_of_closes closed _ _)
  | present clause => exact .present clause

theorem Suffixes.milder {next' next : Option Token} {e e' : Expr} {used : List Token}
    (suffixes : Suffixes next e used e') (milder : Milder next' next) : Suffixes next' e used e' := by
  induction suffixes with
  | nil missing => exact .nil (missing.milder milder fun _ closed => startsSuffix_of_closes closed)
  | cons suffix _ ih => exact .cons suffix ih

theorem IsMetric.milder {t : Token} {next' next : Option Token} (isMetric : IsMetric t next)
    (milder : Milder next' next) : IsMetric t next' :=
  { isMetric with
    noCall := isMetric.noCall.milder milder fun _ closed => isKind_of_closes closed (by decide)
    noAggregate := fun isOperator => (isMetric.noAggregate isOperator).milder milder
      fun _ closed => either?_of_closes closed _ _ }

section

variable [Pattern.Engine]

/-- What is derived in front of one token is derived in front of a milder one. -/
theorem Derives.milder {phrase : Phrase} {used : List Token} {next next' : Option Token}
    (derived : Derives phrase used next) (milder : Milder next' next) :
    Derives phrase used next' := by
  induction derived generalizing next' with
  | @expr least _ _ _ _ missing ih =>
    exact .expr (ih milder)
      (missing.milder milder fun _ closed => continuesChain_of_closes closed least)
  | first _ ih => exact .first (ih milder)
  | @operator _ _ _ _ _ _ _ _ _ _ clause right _ lhs isOperator level isFlag isClause _ built _ ihRhs =>
    exact .operator lhs isOperator level (isFlag.milder ((milder.ahead right).ahead clause))
      (isClause.milder (milder.ahead right)) (ihRhs milder) built
  | signed isSign _ built ih => exact .signed isSign (ih milder) built
  | suffixed _ suffixes ih => exact .suffixed (ih (milder.ahead _)) (suffixes.milder milder)
  | number isNumber value => exact .number isNumber value
  | numberWord isWord value => exact .numberWord isWord value
  | string isString value => exact .string isString value
  | paren isOpening body isClose => exact .paren isOpening body isClose
  | braces isBraces built => exact .braces isBraces built
  | metric isMetric noBraces built =>
    exact .metric (isMetric.milder milder)
      (noBraces.milder milder fun _ closed => isKind_of_closes closed (by decide)) built
  | metricBraces isMetric isBraces built => exact .metricBraces isMetric isBraces built
  | call isName noAggregate isOpening isFunction args isClose built =>
    exact .call isName noAggregate isOpening isFunction args isClose built
  | aggregateLeading isName isOperator isClause isOpening args isClose built =>
    exact .aggregateLeading isName isOperator isClause isOpening args isClose built
  | aggregate isName isOperator isOpening args isClose trailing built =>
    exact .aggregate isName isOperator isOpening args isClose (trailing.milder milder) built
  | noArguments => exact .noArguments
  | lastArgument _ ih => exact .lastArgument (ih milder)
  | moreArguments first isComma _ _ ihMore => exact .moreArguments first isComma (ihMore milder)

theorem Derives.within {phrase : Phrase} {used : List Token} {next next' : Option Token}
    (derived : Derives phrase used next) (within : Within next' next) :
    Derives phrase used next' :=
  derived.milder within.milder

/-! Lower levels. -/

theorem Derives.lower {least lower : Nat} {e : Expr} {used : List Token} {next : Option Token}
    (derived : Derives (.chain least e) used next) (le : lower ≤ least) :
    Derives (.chain lower e) used next := by
  -- Only the chain itself goes down a level; what stands to the right of an operator keeps its own.
  generalize whole : Phrase.chain least e = phrase at derived
  induction derived generalizing e with
  | first operand =>
    cases whole
    exact .first operand
  | operator _ isOperator level isFlag isClause rhs built ihLhs =>
    cases whole
    exact .operator (ihLhs rfl) isOperator (Nat.le_trans le level) isFlag isClause rhs built
  | _ => cases whole

theorem Derives.chain_alone {least : Nat} {e : Expr} {used : List Token} {next : Option Token}
    (derived : Derives (.chain least e) used next) : Derives (.expr 0 e) used none :=
  .expr ((derived.within (.none next)).lower (Nat.zero_le least)) (.none _)

theorem Derives.operand_alone {e : Expr} {used : List Token} {next : Option Token}
    (derived : Derives (.operand e) used next) : Derives (.expr 0 e) used none := by
  have chain : Derives (.chain 0 e) used next := .first derived
  exact chain.chain_alone

theorem Derives.primary_alone {e : Expr} {used : List Token} {next : Option Token}
    (derived : Derives (.primary e) used next) : Derives (.expr 0 e) used none := by
  have operand : Derives (.operand e) (used ++ []) none :=
    .suffixed (derived.within (.none next)) (.nil (.none _))
  rw [List.append_nil] at operand
  exact operand.operand_alone

/-! Stretches of nodes. -/

/-- The node was derived from a stretch of the tokens, which starts outside of all brackets. -/
def HasStretch (used : List Token) (n : Expr) : Prop :=
  ∃ before stretch after, used = before ++ stretch ++ after ∧ Balanced before ∧
    Derives (.expr 0 n) stretch none

theorem HasStretch.own {used : List Token} {n : Expr} (derived : Derives (.expr 0 n) used none) :
    HasStretch used n :=
  ⟨[], used, [], by simp, .nil, derived⟩

theorem HasStretch.inside {used : List Token} {n : Expr} (has : HasStretch used n)
    {front : List Token} (balanced : Balanced front) (back : List Token) :
    HasStretch (front ++ used ++ back) n := by
  obtain ⟨before, stretch, after, rfl, balancedBefore, derived⟩ := has
  exact ⟨front ++ before, stretch, after ++ back, by simp, balanced.append balancedBefore, derived⟩

end

/-- A node below an expression with suffixes is an earlier stage of it or lies deeper. -/
theorem Suffixes.reaches {next : Option Token} {body e n : Expr} {used : List Token}
    (suffixes : Suffixes next body used e) (reached : e.Reaches n) :
    (∃ child ∈ body.children, child.Reaches n) ∨
      ∃ front back, used = front ++ back ∧ Suffixes none body front n := by
  have stage {e : Expr} {used : List Token} (reached : e.Reaches n) :
      (∃ child ∈ e.children, child.Reaches n) ∨
        ∃ front back, used = front ++ back ∧ Suffixes none e front n := by
    rcases Expr.reaches_iff.mp reached with rfl | deeper
    · exact .inr ⟨[], used, rfl, .nil (.none _)⟩
    · exact .inl deeper
  induction suffixes with
  | nil => exact stage reached
  | @cons e₁ e₂ e₃ used more suffix _ ih =>
    rcases ih reached with ⟨child, member, deeper⟩ | ⟨front, back, rfl, later⟩
    · -- Only a subquery has the expression in front of it as a child.
      cases suffix with
      | range => cases member
      | subquery =>
        cases List.mem_singleton.mp member
        exact stage deeper
      | offset | pinned =>
        rw [Expr.children_modify] at member
        exact .inl ⟨child, member, deeper⟩
    · exact .inr ⟨used ++ front, back, by simp, .cons suffix later⟩

theorem Derives.primary_stretches [Pattern.Engine] {e : Expr} {used : List Token} {next : Option Token}
    (derived : Derives (.primary e) used next)
    (below : ∀ child ∈ e.children, ∀ n, child.Reaches n → HasStretch used n) :
    ∀ root ∈ (Phrase.primary e).roots, ∀ n, root.Reaches n → HasStretch used n := by
  simp only [Phrase.roots, List.forall_mem_singleton]
  exact Expr.forall_reaches (.own derived.primary_alone) below

theorem Derives.stretches [Pattern.Engine] {phrase : Phrase} {used : List Token} {next : Option Token}
    (derived : Derives phrase used next) :
    ∀ e ∈ phrase.roots, ∀ n, e.Reaches n → HasStretch used n := by
  induction derived with
  | expr _ _ ih | first _ ih | lastArgument _ ih => exact ih
  | @operator _ _ t lhs rhs _ _ _ left flag clause right _ derivedLhs isOperator level isFlag isClause
      derivedRhs built ihLhs ihRhs =>
    have whole := Derives.operator derivedLhs isOperator level isFlag isClause derivedRhs built
    obtain ⟨rfl, -⟩ := buildBinary_ok built
    simp only [Phrase.roots, List.forall_mem_singleton] at ihLhs ihRhs ⊢
    refine Expr.forall_reaches (.own whole.chain_alone) ?_
    simp only [Expr.children, List.forall_mem_cons, List.not_mem_nil, false_implies, implies_true,
      and_true]
    constructor
    · intro n reached
      simpa using (ihLhs n reached).inside .nil (t :: (flag ++ clause ++ right))
    · intro n reached
      have operator : Balanced (t :: (flag ++ clause)) :=
        .cons (isPlain_of_operator isOperator)
          (isFlag.allPlain.balanced.append isClause.allPlain.balanced)
      simpa using (ihRhs n reached).inside (derivedLhs.balanced.append operator) []
  | @signed _ sign body _ used _ isSign derivedBody built ih =>
    have whole := Derives.signed isSign derivedBody built
    simp only [Phrase.roots, List.forall_mem_singleton] at ih ⊢
    refine Expr.forall_reaches (.own whole.operand_alone) ?_
    -- A signed number is a leaf: the number without its sign is no node.
    rcases buildUnary_ok built with ⟨value, span, value', rfl, rfl⟩ | ⟨rfl, -, -⟩
    · simp [Expr.children]
    · simp only [Expr.children, List.forall_mem_singleton]
      intro n reached
      simpa using (ih n reached).inside (.single (isPlain_of_sign isSign)) []
  | @suffixed body _ used more next derivedBody suffixes ih =>
    simp only [Phrase.roots, List.forall_mem_singleton] at ih ⊢
    intro n reached
    -- A subquery holds the expression in front of it, which has fewer suffixes.
    rcases suffixes.reaches reached with ⟨child, member, deeper⟩ | ⟨front, back, rfl, earlier⟩
    · simpa using (ih n (Expr.reaches_iff.mpr (.inr ⟨child, member, deeper⟩))).inside .nil more
    · have within : Within (ahead front none) (ahead (front ++ back) next) := by
        rw [ahead_append]
        exact (Within.none _).ahead front
      have operand := Derives.suffixed (derivedBody.within within) earlier
      simpa using (HasStretch.own operand.operand_alone).inside .nil back
  | @number _ _ next isNumber value =>
    have whole : Derives _ _ next := .number isNumber value
    exact whole.primary_stretches (by simp [Expr.children])
  | @numberWord _ _ next isWord value =>
    have whole : Derives _ _ next := .numberWord isWord value
    exact whole.primary_stretches (by simp [Expr.children])
  | @string _ _ next isString value =>
    have whole : Derives _ _ next := .string isString value
    exact whole.primary_stretches (by simp [Expr.children])
  | @paren opening close _ used next isOpening derivedBody isClose ih =>
    have whole : Derives _ _ next := .paren isOpening derivedBody isClose
    refine whole.primary_stretches ?_
    simp only [Phrase.roots, Expr.children, List.forall_mem_singleton] at ih ⊢
    intro n reached
    have inside := (ih n reached).inside (.single (isPlain_of_kind isOpening (by decide))) [close]
    simpa using inside
  | @braces _ _ _ _ _ next isBraces built =>
    have whole : Derives _ _ next := .braces isBraces built
    obtain ⟨rfl, -⟩ := finishSelector_ok built
    exact whole.primary_stretches (by simp [Expr.children])
  | metric isMetric noBraces built =>
    have whole := Derives.metric isMetric noBraces built
    obtain ⟨rfl, -⟩ := finishSelector_ok built
    exact whole.primary_stretches (by simp [Expr.children])
  | @metricBraces _ _ _ _ _ _ next isMetric isBraces built =>
    have whole : Derives _ _ next := .metricBraces isMetric isBraces built
    obtain ⟨rfl, -⟩ := finishSelector_ok built
    exact whole.primary_stretches (by simp [Expr.children])
  | @call t opening close _ _ _ _ next isName noAggregate isOpening isFunction args isClose built ih =>
    have whole : Derives _ _ next := .call isName noAggregate isOpening isFunction args isClose built
    obtain ⟨rfl, -, -⟩ := buildCall_ok built
    refine whole.primary_stretches fun child member n reached => ?_
    have front : Balanced [t, opening] := .cons (isPlain_of_kind isName.kind (by decide))
      (.single (isPlain_of_kind isOpening (by decide)))
    simpa using (ih child member n reached).inside front [close]
  | @aggregateLeading t opening close _ _ _ _ _ clause _ next isName isOperator isClause isOpening args
      isClose built ih =>
    have whole : Derives _ _ next :=
      .aggregateLeading isName isOperator isClause isOpening args isClose built
    obtain ⟨param, body, rfl, rfl, -⟩ := buildAggregate_ok built
    refine whole.primary_stretches fun child member n reached => ?_
    have front : Balanced (t :: (clause ++ [opening])) :=
      .cons (isPlain_of_kind isName.kind (by decide)) (isClause.allPlain.balanced.append
        (.single (isPlain_of_kind isOpening (by decide))))
    simpa using (ih child member n reached).inside front [close]
  | @aggregate t opening close _ _ _ _ _ _ clause next isName isOperator isOpening args isClose trailing
      built ih =>
    have whole := Derives.aggregate isName isOperator isOpening args isClose trailing built
    obtain ⟨param, body, rfl, rfl, -⟩ := buildAggregate_ok built
    refine whole.primary_stretches fun child member n reached => ?_
    have front : Balanced [t, opening] := .cons (isPlain_of_kind isName.kind (by decide))
      (.single (isPlain_of_kind isOpening (by decide)))
    simpa using (ih child member n reached).inside front (close :: clause)
  | noArguments => simp [Phrase.roots]
  | @moreArguments comma _ _ used more _ first isComma _ ihFirst ihMore =>
    simp only [Phrase.roots, List.forall_mem_singleton, List.forall_mem_cons] at ihFirst ihMore ⊢
    constructor
    · intro n reached
      simpa using (ihFirst n reached).inside .nil (comma :: more)
    · intro e member n reached
      have front := first.balanced.append (.single (isPlain_of_kind isComma (by decide)))
      simpa using (ihMore e member n reached).inside front []

end QueryLint.Grammar
