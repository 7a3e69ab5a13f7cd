import QueryLint.Expr.Parser

/-! The grammar of expressions, as a relation between tokens and trees.

`Derives phrase used next` says that the tokens `used` are read as `phrase` when the token `next`
follows them. That one token is all a reader ever sees of what follows, so a derivation holds in
front of every text that begins alike. Operators group to the left by recursion on the left: an
open chain of operators is a phrase of its own, and it becomes an expression when no operator of
its level follows.
-/

set_option autoImplicit false

namespace QueryLint.Grammar

open QueryLint.Parser
open Text (Span)

/-- The token that comes next when `ts` stand in front of `next`. -/
def ahead (ts : List Token) (next : Option Token) : Option Token :=
  ts.head?.or next

@[simp] theorem ahead_nil (next : Option Token) : ahead [] next = next := rfl

@[simp] theorem ahead_cons (t : Token) (ts : List Token) (next : Option Token) :
    ahead (t :: ts) next = some t := rfl

theorem ahead_append (front back : List Token) (next : Option Token) :
    ahead (front ++ back) next = ahead front (ahead back next) := by
  cases front <;> rfl

theorem head?_append (front rest : List Token) : (front ++ rest).head? = ahead front rest.head? := by
  cases front <;> rfl

/-- No token with the property comes next. -/
def NotAhead (test : Token → Bool) (next : Option Token) : Prop :=
  ∀ t ∈ next, test t = false

@[simp] theorem NotAhead.none (test : Token → Bool) : NotAhead test none := by
  intro t found
  cases found

@[simp] theorem NotAhead.some_iff {test : Token → Bool} {t : Token} :
    NotAhead test (some t) ↔ test t = false := by
  simp [NotAhead]

def isKind (kind : Token.Kind) (t : Token) : Bool :=
  t.kind = kind

@[simp] theorem isKind_iff {kind : Token.Kind} {t : Token} : isKind kind t = true ↔ t.kind = kind := by
  simp [isKind]

/-- What a token stands for that is one of two words. -/
def either? {α : Type} (first second : String × α) (t : Token) : Option α :=
  if isWord first.1 t then some first.2 else if isWord second.1 t then some second.2 else none

theorem kind_of_isWord {word : String} {t : Token} (isWord : isWord word t = true) :
    t.kind = .identifier := by
  simp only [Parser.isWord, Bool.and_eq_true, decide_eq_true_eq] at isWord
  exact isWord.1

theorem kind_of_either? {α : Type} {first second : String × α} {t : Token} {a : α}
    (found : either? first second t = some a) : t.kind = .identifier := by
  rw [either?] at found
  split at found
  · next isWord => exact kind_of_isWord isWord
  · split at found
    · next isWord => exact kind_of_isWord isWord
    · cases found

/-- Whether operands are matched on labels. -/
abbrev matchingWord? : Token → Option Bool := either? ("on", true) ("ignoring", false)

/-- Which side of an operator has many series. -/
abbrev cardinalityWord? : Token → Option Cardinality :=
  either? ("group_left", .manyToOne) ("group_right", .oneToMany)

/-- Whether an aggregation leaves labels out. -/
abbrev groupingWord? : Token → Option Bool := either? ("by", false) ("without", true)

/-- The end of the query range that an `@` modifier names. -/
abbrev instantWord? : Token → Option Instant := either? ("start", .start) ("end", .stop)

/-! Clauses without expressions inside. -/

/-- Items with commas between them and perhaps behind the last. -/
inductive Listed {α : Type} (Item : List Token → α → Prop) : List Token → List α → Prop
  | nil : Listed Item [] []
  | last {used : List Token} {a : α} : Item used a → Listed Item used [a]
  | more {used rest : List Token} {comma : Token} {a : α} {as : List α} :
      Item used a → comma.kind = .comma → Listed Item rest as →
      Listed Item (used ++ comma :: rest) (a :: as)

inductive Label : List Token → String → Prop
  | name {t : Token} : t.kind = .identifier → Label [t] t.text

/-- Labels in parentheses, the last of which is `close`. -/
inductive LabelList : List Token → Token → List String → Prop
  | parens {opening close : Token} {used : List Token} {found : List String} :
      opening.kind = .leftParen → Listed Label used found → close.kind = .rightParen →
      LabelList (opening :: (used ++ [close])) close found

/-- The word `bool` behind a comparison. -/
inductive BoolFlag (op : BinaryOp) (next : Option Token) : List Token → Bool → Prop
  | absent : (op.isComparison = true → NotAhead (isWord "bool") next) → BoolFlag op next [] false
  | present {t : Token} : op.isComparison = true → isWord "bool" t = true → BoolFlag op next [t] true

/-- Labels to include from the side with one series. -/
inductive Included (next : Option Token) : List Token → List String → Prop
  | absent : NotAhead (isKind .leftParen) next → Included next [] []
  | listed {used : List Token} {close : Token} {found : List String} :
      LabelList used close found → Included next used found

/-- How the operands of an operator are matched. -/
inductive MatchingClause (op : BinaryOp) (next : Option Token) : List Token → Option Matching → Prop
  | absent : NotAhead (fun t => (matchingWord? t).isSome) next → MatchingClause op next [] none
  | plain {word close : Token} {used : List Token} {on : Bool} {found : List String} :
      matchingWord? word = some on → LabelList used close found →
      NotAhead (fun t => (cardinalityWord? t).isSome) next →
      MatchingClause op next (word :: used) (some ⟨on, found, .oneToOne, []⟩)
  | grouped {word close side : Token} {used more : List Token} {on : Bool} {card : Cardinality}
      {found others : List String} :
      matchingWord? word = some on → LabelList used close found →
      cardinalityWord? side = some card → op.isSetOperator = false → Included next more others →
      MatchingClause op next (word :: (used ++ side :: more)) (some ⟨on, found, card, others⟩)

/-- A grouping of an aggregation, with its last token. -/
inductive GroupingClause : List Token → Token → Grouping → Prop
  | labels {word close : Token} {used : List Token} {without : Bool} {found : List String} :
      groupingWord? word = some without → LabelList used close found →
      GroupingClause (word :: used) close ⟨without, found⟩

/-- A grouping behind the arguments, which `close` ends; without one, `close` is the last token. -/
inductive Trailing (close : Token) (next : Option Token) : List Token → Token → Grouping → Prop
  | absent : NotAhead (fun t => (groupingWord? t).isSome) next → Trailing close next [] close {}
  | present {used : List Token} {last : Token} {grouping : Grouping} :
      GroupingClause used last grouping → Trailing close next used last grouping

/-! Ranges and modifiers. -/

/-- A token that is a duration of so many milliseconds. -/
structure IsDuration (t : Token) (ms : Nat) : Prop where
  kind : t.kind = .duration
  read : Literal.Duration.read t.text = .ok ms

inductive Sign : List Token → Bool → Prop
  | absent : Sign [] false
  | minus {t : Token} : t.kind = .sub → Sign [t] true

inductive Step : List Token → Option Nat → Prop
  | absent : Step [] none
  | given {t : Token} {ms : Nat} : IsDuration t ms → Step [t] (some ms)

/-- The value of an `@` modifier, with its last token. -/
inductive InstantClause : List Token → Token → Instant → Prop
  | word {name opening close : Token} {value : Instant} :
      instantWord? name = some value → opening.kind = .leftParen → close.kind = .rightParen →
      InstantClause [name, opening, close] close value
  | timestamp {sign : List Token} {t : Token} {negative : Bool} {value : Number.Double} :
      Sign sign negative → t.kind = .number → number t = .ok value →
      (if negative then value.neg else value).isFinite = true →
      InstantClause (sign ++ [t]) t (.timestamp (if negative then value.neg else value))

/-- One range, subquery or modifier behind an expression, and what it makes of the expression. -/
inductive Suffix : Expr → List Token → Expr → Prop
  | range {opening length close : Token} {ms : Nat} {selector : Selector} :
      opening.kind = .leftBracket → IsDuration length ms → close.kind = .rightBracket →
      Suffix (.vector selector) [opening, length, close]
        (.matrix selector ms (selector.span.cover close.span))
  | subquery {opening length colon close : Token} {used : List Token} {ms : Nat}
      {step : Option Nat} {e : Expr} :
      opening.kind = .leftBracket → IsDuration length ms → colon.kind = .colon → Step used step →
      close.kind = .rightBracket → e.valueType = .vector →
      Suffix e (opening :: length :: colon :: (used ++ [close]))
        (.subquery e ms step {} (e.span.cover close.span))
  | offset {word length : Token} {sign : List Token} {negative : Bool} {ms : Nat} {e : Expr}
      {modifiers : Modifiers} :
      isWord "offset" word = true → Sign sign negative → IsDuration length ms →
      e.modifiers? = some modifiers → modifiers.offset = none →
      Suffix e (word :: (sign ++ [length]))
        (e.modify { modifiers with offset := some (if negative then -(ms : Int) else ms) }
          length.span)
  | pinned {mark last : Token} {used : List Token} {value : Instant} {e : Expr}
      {modifiers : Modifiers} :
      mark.kind = .at → InstantClause used last value → e.modifiers? = some modifiers →
      modifiers.instant = none →
      Suffix e (mark :: used) (e.modify { modifiers with instant := some value } last.span)

/-- Whether a token starts a suffix. -/
def startsSuffix (t : Token) : Bool :=
  isKind .leftBracket t || isWord "offset" t || isKind .at t

/-- Suffixes as far as there are any. -/
inductive Suffixes (next : Option Token) : Expr → List Token → Expr → Prop
  | nil {e : Expr} : NotAhead startsSuffix next → Suffixes next e [] e
  | cons {e₁ e₂ e₃ : Expr} {used more : List Token} :
      Suffix e₁ used e₂ → Suffixes next e₂ more e₃ → Suffixes next e₁ (used ++ more) e₃

/-! Selectors. -/

/-- A condition on a label inside braces. -/
inductive Condition : List Token → Matcher → Prop
  | compare {label symbol value : Token} {op : MatchOp} {decoded : String} :
      label.kind = .identifier → MatchOp.ofKind? symbol.kind = some op → value.kind = .string →
      string value = .ok decoded →
      Condition [label, symbol, value]
        ⟨label.text, op, decoded, label.span.cover value.span⟩

/-- Conditions in braces, with the first and the last token. -/
inductive Braces : List Token → Token → Token → List Matcher → Prop
  | listed {opening close : Token} {used : List Token} {found : List Matcher} :
      opening.kind = .leftBrace → Listed Condition used found → close.kind = .rightBrace →
      Braces (opening :: (used ++ [close])) opening close found

/-- A word that can be read as the name of a function, an operator or a metric. -/
structure IsName (t : Token) : Prop where
  kind : t.kind = .identifier
  noNumber : numberWord? (Text.lower t.text) = none

/-- A name that selects series in front of `next`. -/
structure IsMetric (t : Token) (next : Option Token) : Prop extends IsName t where
  notReserved : isReserved (Text.lower t.text) = false
  noCall : NotAhead (isKind .leftParen) next
  noAggregate : (AggregateOp.ofName? t.text).isSome = true →
    NotAhead (fun t => (groupingWord? t).isSome) next

/-! Expressions. -/

/-- What tokens are read as. -/
inductive Phrase where
  /-- An expression with operators of at least a level. -/
  | expr (least : Nat) (e : Expr)
  /-- Such an expression when further operators of that level may follow. -/
  | chain (least : Nat) (e : Expr)
  /-- What stands between operators. -/
  | operand (e : Expr)
  /-- An operand without sign and suffixes. -/
  | primary (e : Expr)
  /-- Arguments of a call or aggregation, without the parentheses. -/
  | arguments (args : List Expr)

/-- The trees that a phrase is made of. -/
def Phrase.roots : Phrase → List Expr
  | .expr _ e | .chain _ e | .operand e | .primary e => [e]
  | .arguments args => args

/-- Whether the next token is an operator of a level. -/
def continuesChain (least : Nat) (t : Token) : Bool :=
  (BinaryOp.ofToken? t).any fun op => least ≤ op.precedence

inductive Derives [Pattern.Engine] : Phrase → List Token → Option Token → Prop
  | expr {least : Nat} {e : Expr} {used : List Token} {next : Option Token} :
      Derives (.chain least e) used next → NotAhead (continuesChain least) next →
      Derives (.expr least e) used next
  | first {least : Nat} {e : Expr} {used : List Token} {next : Option Token} :
      Derives (.operand e) used next → Derives (.chain least e) used next
  | operator {least : Nat} {op : BinaryOp} {t : Token} {lhs rhs e : Expr} {returnsBool : Bool}
      {matching : Option Matching} {left flag clause right : List Token} {next : Option Token} :
      Derives (.chain least lhs) left (some t) →
      BinaryOp.ofToken? t = some op → least ≤ op.precedence →
      BoolFlag op (ahead clause (ahead right next)) flag returnsBool →
      MatchingClause op (ahead right next) clause matching →
      Derives (.expr op.rightLevel rhs) right next →
      buildBinary op t.span lhs rhs returnsBool matching = .ok e →
      Derives (.chain least e) (left ++ t :: (flag ++ clause ++ right)) next
  | signed {op : UnaryOp} {sign : Token} {body e : Expr} {used : List Token} {next : Option Token} :
      UnaryOp.ofKind? sign.kind = some op →
      Derives (.expr BinaryOp.pow.precedence body) used next →
      buildUnary op sign.span body = .ok e →
      Derives (.operand e) (sign :: used) next
  | suffixed {body e : Expr} {used more : List Token} {next : Option Token} :
      Derives (.primary body) used (ahead more next) → Suffixes next body more e →
      Derives (.operand e) (used ++ more) next
  | number {t : Token} {value : Number.Double} {next : Option Token} :
      t.kind = .number → number t = .ok value → Derives (.primary (.number value t.span)) [t] next
  | numberWord {t : Token} {value : Number.Double} {next : Option Token} :
      t.kind = .identifier → numberWord? (Text.lower t.text) = some value →
      Derives (.primary (.number value t.span)) [t] next
  | string {t : Token} {value : String} {next : Option Token} :
      t.kind = .string → string t = .ok value → Derives (.primary (.string value t.span)) [t] next
  | paren {opening close : Token} {e : Expr} {used : List Token} {next : Option Token} :
      opening.kind = .leftParen → Derives (.expr 0 e) used (some close) →
      close.kind = .rightParen →
      Derives (.primary (.paren e (opening.span.cover close.span))) (opening :: (used ++ [close]))
        next
  | braces {opening close : Token} {found : List Matcher} {e : Expr} {used : List Token}
      {next : Option Token} :
      Braces used opening close found →
      finishSelector none found (opening.span.cover close.span) = .ok e →
      Derives (.primary e) used next
  | metric {t : Token} {e : Expr} {next : Option Token} :
      IsMetric t next → NotAhead (isKind .leftBrace) next →
      finishSelector (some t.text) [nameMatcher t] t.span = .ok e →
      Derives (.primary e) [t] next
  | metricBraces {t opening close : Token} {found : List Matcher} {e : Expr} {used : List Token}
      {next : Option Token} :
      IsMetric t (some opening) → Braces used opening close found →
      finishSelector (some t.text) (nameMatcher t :: found)
        ((t.span.cover opening.span).cover close.span) = .ok e →
      Derives (.primary e) (t :: used) next
  | call {t opening close : Token} {function : Signature} {args : List Expr} {e : Expr}
      {used : List Token} {next : Option Token} :
      IsName t → AggregateOp.ofName? t.text = none → opening.kind = .leftParen →
      Signature.lookup? t.text = some function → Derives (.arguments args) used (some close) →
      close.kind = .rightParen → buildCall function args (t.span.cover close.span) = .ok e →
      Derives (.primary e) (t :: opening :: (used ++ [close])) next
  | aggregateLeading {t opening close last : Token} {op : AggregateOp} {grouping : Grouping}
      {args : List Expr} {e : Expr} {clause used : List Token} {next : Option Token} :
      IsName t → AggregateOp.ofName? t.text = some op → GroupingClause clause last grouping →
      opening.kind = .leftParen → Derives (.arguments args) used (some close) →
      close.kind = .rightParen →
      buildAggregate op args grouping (t.span.cover close.span) = .ok e →
      Derives (.primary e) (t :: (clause ++ opening :: (used ++ [close]))) next
  | aggregate {t opening close last : Token} {op : AggregateOp} {grouping : Grouping}
      {args : List Expr} {e : Expr} {used clause : List Token} {next : Option Token} :
      IsName t → AggregateOp.ofName? t.text = some op → opening.kind = .leftParen →
      Derives (.arguments args) used (some close) → close.kind = .rightParen →
      Trailing close next clause last grouping →
      buildAggregate op args grouping (t.span.cover last.span) = .ok e →
      Derives (.primary e) (t :: opening :: (used ++ close :: clause)) next
  | noArguments {next : Option Token} : Derives (.arguments []) [] next
  | lastArgument {e : Expr} {used : List Token} {next : Option Token} :
      Derives (.expr 0 e) used next → Derives (.arguments [e]) used next
  | moreArguments {comma : Token} {e : Expr} {es : List Expr} {used more : List Token}
      {next : Option Token} :
      Derives (.expr 0 e) used (some comma) → comma.kind = .comma →
      Derives (.arguments es) more next →
      Derives (.arguments (e :: es)) (used ++ comma :: more) next

end QueryLint.Grammar
