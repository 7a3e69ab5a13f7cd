import QueryLint.Proofs.Expr.NodeText

/-! How the operators of a parsed tree are grouped.

Every node was derived from a stretch of tokens of its own, and the last step of that derivation says
what stands on its two sides. The right side was read at a level that keeps looser operators out. The
left side is a chain that was open when the operator came: whatever ended it with a right operand of
its own did not take the operator, so it binds at least as tightly.
-/

set_option autoImplicit false

namespace QueryLint

namespace Expr

/-- The operator of a binary node. -/
def operator? : Expr → Option BinaryOp
  | .binary op _ _ _ _ _ => some op
  | _ => none

/-- Neither a sign nor an operator stands at the root. -/
def isAtomic : Expr → Bool
  | .unary _ _ _ | .binary _ _ _ _ _ _ => false
  | _ => true

/-- What the operands of a binary node of a text may be without parentheses around them. -/
structure BinaryGrouped (source : String) (op : BinaryOp) (lhs rhs : Expr) : Prop where
  left : ∀ o, lhs.operator? = some o →
    op.precedence < o.precedence ∨ (o.precedence = op.precedence ∧ op ≠ .pow)
  right : ∀ o, rhs.operator? = some o →
    op.precedence < o.precedence ∨ (o.precedence = op.precedence ∧ op = .pow)
  base : op = .pow → lhs.isAtomic = true ∧
    ∃ text, Text.slice? lhs.span.start lhs.span.stop source.toList = some text ∧
      text.head? ≠ some '+' ∧ text.head? ≠ some '-'

/-- What may stand behind a sign without parentheses around it. -/
structure UnaryGrouped (body : Expr) : Prop where
  notNumber : ∀ value span, body ≠ .number value span
  power : ∀ o, body.operator? = some o → o = .pow

theorem operator?_of_isAtomic {e : Expr} (atomic : e.isAtomic = true) : e.operator? = none := by
  cases e <;> first | rfl | cases atomic

theorem isAtomic_modify {e : Expr} {found : Modifiers} (modifiable : e.modifiers? = some found)
    (modifiers : Modifiers) (last : Text.Span) : (e.modify modifiers last).isAtomic = true := by
  cases e <;> first | rfl | cases modifiable

end Expr

namespace BinaryOp

theorem rightLevel_le_pow (op : BinaryOp) : op.rightLevel ≤ pow.precedence := by
  cases op <;> decide

theorem eq_pow_of_le {op : BinaryOp} (tight : pow.precedence ≤ op.precedence) : op = pow := by
  cases op <;> first | rfl | exact absurd tight (by decide)

theorem rightLevel_eq {op : BinaryOp} (other : op ≠ .pow) : op.rightLevel = op.precedence + 1 := by
  cases op <;> first | rfl | exact absurd rfl other

/-- What has the level of the right side of an operator, or binds more tightly. -/
theorem right_of_rightLevel_le {op o : BinaryOp} (level : op.rightLevel ≤ o.precedence) :
    op.precedence < o.precedence ∨ (o.precedence = op.precedence ∧ op = .pow) := by
  by_cases power : op = .pow
  · subst power
    exact .inr ⟨congrArg precedence (eq_pow_of_le level), rfl⟩
  · rw [rightLevel_eq power] at level
    exact .inl level

/-- What does not belong to the right side of an operator takes all of it as its left side. -/
theorem left_of_lt_rightLevel {op o : BinaryOp} (level : op.precedence < o.rightLevel) :
    op.precedence < o.precedence ∨ (o.precedence = op.precedence ∧ op ≠ .pow) := by
  have noPower : op ≠ .pow := by
    rintro rfl
    exact absurd level (Nat.not_lt.mpr o.rightLevel_le_pow)
  have level' : op.precedence ≤ o.precedence := by
    by_cases power : o = .pow
    · subst power
      exact Nat.le_of_lt level
    · rw [rightLevel_eq power] at level
      exact Nat.le_of_lt_succ level
  rcases Nat.lt_or_eq_of_le level' with tighter | same
  · exact .inl tighter
  · exact .inr ⟨same.symm, noPower⟩

end BinaryOp

namespace Grammar

open QueryLint.Parser

/-- The tokens do not start with a sign. -/
def Unsigned (used : List Token) : Prop :=
  ∃ first, used.head? = some first ∧ UnaryOp.ofKind? first.kind = none

theorem Unsigned.of_kind {t : Token} {kind : Token.Kind} (isKind : t.kind = kind)
    (noSign : UnaryOp.ofKind? kind = none) (rest : List Token) : Unsigned (t :: rest) :=
  ⟨t, rfl, isKind ▸ noSign⟩

theorem Unsigned.append {used : List Token} (unsigned : Unsigned used) (more : List Token) :
    Unsigned (used ++ more) := by
  obtain ⟨first, isFirst, noSign⟩ := unsigned
  exact ⟨first, by rw [List.head?_append, isFirst]; rfl, noSign⟩

theorem Derives.primary_atomic [Pattern.Engine] {e : Expr} {used : List Token} {next : Option Token}
    (derived : Derives (.primary e) used next) : e.isAtomic = true ∧ Unsigned used := by
  cases derived with
  | number isNumber | string isNumber => exact ⟨rfl, .of_kind isNumber rfl _⟩
  | numberWord isWord => exact ⟨rfl, .of_kind isWord rfl _⟩
  | paren isOpening => exact ⟨rfl, .of_kind isOpening rfl _⟩
  | braces isBraces built =>
    obtain ⟨rfl, -⟩ := finishSelector_ok built
    cases isBraces with
    | listed isOpening => exact ⟨rfl, .of_kind isOpening rfl _⟩
  | metric isMetric _ built | metricBraces isMetric _ built =>
    obtain ⟨rfl, -⟩ := finishSelector_ok built
    exact ⟨rfl, .of_kind isMetric.kind rfl _⟩
  | call isName _ _ _ _ _ built =>
    obtain ⟨rfl, -⟩ := buildCall_ok built
    exact ⟨rfl, .of_kind isName.kind rfl _⟩
  | aggregateLeading isName _ _ _ _ _ built | aggregate isName _ _ _ _ _ built =>
    obtain ⟨_, _, -, rfl, -⟩ := buildAggregate_ok built
    exact ⟨rfl, .of_kind isName.kind rfl _⟩

theorem Suffixes.atomic {next : Option Token} {e e' : Expr} {used : List Token}
    (suffixes : Suffixes next e used e') (atomic : e.isAtomic = true) : e'.isAtomic = true := by
  induction suffixes with
  | nil => exact atomic
  | cons suffix _ ih =>
    apply ih
    cases suffix with
    | range | subquery => rfl
    | offset _ _ _ modifiable | pinned _ _ modifiable => exact Expr.isAtomic_modify modifiable _ _

variable [Pattern.Engine]

/-- An operand has no operator at its root. -/
theorem Derives.operand_operator? {e : Expr} {used : List Token} {next : Option Token}
    (derived : Derives (.operand e) used next) : e.operator? = none := by
  cases derived with
  | signed _ _ built =>
    rcases buildUnary_ok built with ⟨_, _, _, -, rfl⟩ | ⟨rfl, -, -⟩ <;> rfl
  | suffixed primary suffixes =>
    exact Expr.operator?_of_isAtomic (suffixes.atomic primary.primary_atomic.1)

/-- An expression of a level has no looser operator at its root. -/
theorem Derives.level_le {least : Nat} {e : Expr} {o : BinaryOp} {used : List Token}
    {next : Option Token} (derived : Derives (.expr least e) used next)
    (isOperator : e.operator? = some o) : least ≤ o.precedence := by
  cases derived with
  | expr chain =>
    cases chain with
    | first operand => cases operand.operand_operator?.symm.trans isOperator
    | operator _ _ level _ _ _ built =>
      obtain ⟨rfl, -⟩ := buildBinary_ok built
      cases isOperator
      exact level

/-- What follows an expression of a level is no operator of that level. -/
theorem Derives.lt_level {least : Nat} {e : Expr} {op : BinaryOp} {used : List Token} {t : Token}
    (derived : Derives (.expr least e) used (some t)) (isToken : BinaryOp.ofToken? t = some op) :
    op.precedence < least := by
  cases derived with
  | expr _ ended => simpa [continuesChain, isToken] using ended

/-- An operator behind a chain did not belong to the right side of the last one in the chain. -/
theorem Derives.lt_rightLevel {least : Nat} {e : Expr} {o op : BinaryOp} {used : List Token} {t : Token}
    (derived : Derives (.chain least e) used (some t)) (isOperator : e.operator? = some o)
    (isToken : BinaryOp.ofToken? t = some op) : op.precedence < o.rightLevel := by
  cases derived with
  | first operand => cases operand.operand_operator?.symm.trans isOperator
  | operator _ _ _ _ _ rhs built =>
    obtain ⟨rfl, -⟩ := buildBinary_ok built
    cases isOperator
    exact rhs.lt_level isToken

/-- A power takes what stands before it only if that has neither sign nor operator. -/
theorem Derives.power_base {least : Nat} {e : Expr} {used : List Token} {t : Token}
    (derived : Derives (.chain least e) used (some t)) (isPower : BinaryOp.ofToken? t = some .pow) :
    e.isAtomic = true ∧ Unsigned used := by
  cases derived with
  | first operand =>
    cases operand with
    | signed _ body => exact absurd (body.lt_level isPower) (Nat.lt_irrefl _)
    | suffixed primary suffixes =>
      obtain ⟨atomic, unsigned⟩ := primary.primary_atomic
      exact ⟨suffixes.atomic atomic, unsigned.append _⟩
  | @operator _ o _ _ _ _ _ _ _ _ _ _ _ _ _ _ _ _ rhs =>
    exact absurd (rhs.lt_level isPower) (Nat.not_lt.mpr o.rightLevel_le_pow)

/-- What stands behind a sign that is a node. -/
theorem Derives.unaryGrouped {least : Nat} {op : UnaryOp} {body : Expr} {span : Text.Span}
    {used : List Token} {next : Option Token}
    (derived : Derives (.expr least (.unary op body span)) used next) : body.UnaryGrouped := by
  cases derived with
  | expr chain =>
    cases chain with
    | operator _ _ _ _ _ _ built => cases (buildBinary_ok built).1
    | first operand =>
      cases operand with
      | suffixed primary suffixes => cases suffixes.atomic primary.primary_atomic.1
      | signed _ derivedBody built =>
        rcases buildUnary_ok built with ⟨_, _, _, -, same⟩ | ⟨same, -, notNumber⟩
        · cases same
        · cases same
          exact ⟨notNumber, fun o isOperator =>
            BinaryOp.eq_pow_of_le (derivedBody.level_le isOperator)⟩

end Grammar

/-- A text that starts with a sign starts with the token of the sign. -/
theorem Token.scan_sign (depth offset : Nat) {text : List Char}
    (signed : text.head? = some '+' ∨ text.head? = some '-') :
    ∃ t items, scan depth offset text = .token t :: items ∧ UnaryOp.ofKind? t.kind ≠ none := by
  have starts {c : Char} {kind : Kind} (notBlank : isSpace c = false) (notHash : c ≠ '#')
      (isToken : ∀ rest, shape depth c rest = (.token kind, 0)) (isFirst : text.head? = some c) :
      ∃ t items, scan depth offset text = .token t :: items ∧ t.kind = kind := by
    obtain ⟨rest, rfl⟩ := List.head?_eq_some_iff.mp isFirst
    rw [scan, if_neg (by simp [notBlank]), if_neg notHash, isToken]
    exact ⟨_, _, rfl, rfl⟩
  rcases signed with plus | minus
  · obtain ⟨t, items, scanned, isAdd⟩ := starts rfl (by decide) (fun _ => rfl) plus
    exact ⟨t, items, scanned, by simp [isAdd, UnaryOp.ofKind?]⟩
  · obtain ⟨t, items, scanned, isSub⟩ := starts rfl (by decide) (fun _ => rfl) minus
    exact ⟨t, items, scanned, by simp [isSub, UnaryOp.ofKind?]⟩

/-- The text of unsigned tokens does not start with a sign. -/
theorem Grammar.Unsigned.text {source : String} {before used after : List Token} {span : Text.Span}
    (clean : Token.items source = (before ++ used ++ after).map .token) (balanced : Balanced before)
    (covers : Covers used span) (unsigned : Unsigned used) :
    ∃ text, Text.slice? span.start span.stop source.toList = some text ∧
      text.head? ≠ some '+' ∧ text.head? ≠ some '-' := by
  obtain ⟨first, isFirst, noSign⟩ := unsigned
  obtain ⟨first', last, isFirst', isLast, rfl⟩ := covers
  cases isFirst.symm.trans isFirst'
  obtain ⟨front, text, back, same, starts, stops, scanned⟩ :=
    Token.exists_stretch clean (balanced 0) isFirst isLast
  rw [starts, stops, same]
  refine ⟨text, Text.slice?_append front text back, not_or.mp fun signed => ?_⟩
  -- The sign would be the first token of the text, and that has the kind of `first`.
  obtain ⟨t, items, starts, isSign⟩ := Token.scan_sign 0 0 signed
  obtain ⟨more, rfl⟩ := List.head?_eq_some_iff.mp isFirst
  rw [starts, List.map_cons, List.map_cons] at scanned
  cases (List.cons.inj scanned).1
  exact isSign noSign

/-- In a parsed tree, looser operators never stand below tighter ones without parentheses, operators
of one level group to the left and powers to the right, and a sign takes a power but nothing looser;
it never stays in front of a number. -/
theorem Expr.parse_grouped [Pattern.Engine] {source : String} {root : Expr}
    (parsed : Expr.parse source = .ok root) :
    (∀ op lhs rhs returnsBool matching span,
      root.Reaches (.binary op lhs rhs returnsBool matching span) →
        BinaryGrouped source op lhs rhs) ∧
    (∀ op body span, root.Reaches (.unary op body span) → UnaryGrouped body) := by
  obtain ⟨tokens, clean, derived⟩ := Grammar.parse_sound parsed
  have stretches := derived.stretches root (by simp [Grammar.Phrase.roots])
  refine ⟨fun op lhs rhs returnsBool matching span reached => ?_, fun op body span reached => ?_⟩
  · obtain ⟨before, stretch, after, split, balanced, alone⟩ := stretches _ reached
    cases alone with
    | expr chain =>
      cases chain with
      -- An operand is no operation.
      | first operand => cases operand.operand_operator?
      | @operator _ _ t _ _ _ _ _ left flag clause right _ derivedLhs isToken _ _ _ derivedRhs built =>
        cases (Parser.buildBinary_ok built).1
        refine ⟨?_, ?_, ?_⟩
        · intro o isOperator
          exact BinaryOp.left_of_lt_rightLevel (derivedLhs.lt_rightLevel isOperator isToken)
        · intro o isOperator
          exact BinaryOp.right_of_rightLevel_le (derivedRhs.level_le isOperator)
        · rintro rfl
          -- The base of a power: a sign in front of it would have been read around the power.
          obtain ⟨atomic, unsigned⟩ := derivedLhs.power_base isToken
          have whole : tokens = before ++ left ++ (t :: (flag ++ clause ++ right) ++ after) := by
            rw [split]
            simp
          have ordered : Grammar.Ordered left :=
            Grammar.Ordered.sublist ⟨_, _, Grammar.ordered_items clean⟩ (by rw [whole]; simp)
          have placed : Grammar.Placed left lhs := derivedLhs.placed ordered
          rw [whole] at clean
          exact ⟨atomic, unsigned.text clean balanced placed.covers⟩
  · obtain ⟨_, _, _, -, -, alone⟩ := stretches _ reached
    exact alone.unaryGrouped

theorem Expr.parse_grouped_mixed :
    let _ := Pattern.Engine.ofAnswers []
    ∃ root, Expr.parse "-a^b^c-d" = .ok root ∧
      (∀ op lhs rhs returnsBool matching span,
        root.Reaches (.binary op lhs rhs returnsBool matching span) →
          BinaryGrouped "-a^b^c-d" op lhs rhs) ∧
      (∀ op body span, root.Reaches (.unary op body span) → UnaryGrouped body) := by
  intro _
  have reads : (Expr.parse "-a^b^c-d").isOk = true := by cbv
  obtain ⟨root, parsed⟩ := Grammar.exists_of_isOk reads
  exact ⟨root, parsed, parse_grouped parsed⟩

end QueryLint
