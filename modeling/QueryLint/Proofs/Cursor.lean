import QueryLint.Expr.Parser

/-! Reading an expression by positions.

A scan has all tokens with the end of input behind them, and a position among them. It looks a token up by
an index that may lead nowhere, and stays where it is at the end of input; its loops and the expressions
inside expressions are bounded by fuel alone. So nothing makes it end or keeps it inside the tokens, and it
watches itself instead: a reader that comes back, or a loop that goes round, without having passed a token
is a fault, like an index that leads nowhere, a position behind the end of input, and a want of fuel.

What is made of the tokens is left to the functions that build expressions.
-/

set_option autoImplicit false

namespace QueryLint

open QueryLint.Parser (acceptsEmpty buildAggregate buildBinary buildCall buildUnary fail finishSelector
  isReserved isWord nameMatcher numberWord? unexpected)
open ParseError (Context)

/-- A position among tokens, and the tokens that were passed on the way there. -/
structure Cursor where
  position : Nat := 0
  passed : List Token := []
  deriving DecidableEq, Repr

namespace Cursor

inductive Fault where
  /-- No token has the index. -/
  | noToken
  /-- No token was passed where one must be. -/
  | idle
  /-- The end of input was passed. -/
  | beyond
  | noFuel
  deriving DecidableEq, Repr

inductive Stop where
  | refused (error : ParseError)
  | fault (cause : Fault)
  deriving DecidableEq, Repr

abbrev Scan := ReaderT (List Token) (StateT Cursor (Except Stop))

/-! Single tokens. -/

def look (index : Nat) : Scan Token := do
  match (← read)[index]? with
  | some t => pure t
  | none => throw (.fault .noToken)

/-- The token `n` places ahead, or the last one. -/
def peekNth (n : Nat) : Scan Token := do
  look (min ((← get).position + n) ((← read).length - 1))

def peek : Scan Token := peekNth 0

/-- The token before the position. -/
def previous : Scan Token := do
  match (← get).position with
  | 0 => throw (.fault .noToken)
  | n + 1 => look n

/-- Passes a token; the end of input is not passed. -/
def advance : Scan Token := do
  let t ← peek
  if t.kind ≠ .eof then modify fun c => ⟨c.position + 1, c.passed ++ [t]⟩
  pure t

def eatIf (test : Token → Bool) : Scan (Option Token) := do
  if test (← peek) then some <$> advance else pure none

def eat (kind : Token.Kind) : Scan (Option Token) := eatIf fun t => t.kind = kind

def eatWord (word : String) : Scan (Option Token) := eatIf (isWord word)

/-- What needs no tokens. -/
def build {α : Type} (x : Except ParseError α) : Scan α :=
  match x with
  | .ok a => pure a
  | .error e => throw (.refused e)

def expect (kind : Token.Kind) (context : Context) : Scan Token := do
  let t ← peek
  if t.kind = kind then advance else build (unexpected t context (.kind kind))

/-! Readers and loops that are watched. -/

/-- Faults unless a token was passed behind the position `before`, and never the end of input. -/
def checkProgress (before : Nat) : Scan Unit := do
  let here := (← get).position
  if here ≤ before then throw (.fault .idle)
  else if (← read).length ≤ here then throw (.fault .beyond)

/-- A reader that must pass a token. -/
def watched {α : Type} (reader : Scan α) : Scan α := do
  let before ← get
  let a ← reader
  checkProgress before.position
  pure a

/-- Goes round until a round leaves the loop; any other round must pass a token. -/
def loop {σ α : Type} (round : σ → Scan (σ ⊕ α)) : Nat → σ → Scan α
  | 0, _ => throw (.fault .noFuel)
  | fuel + 1, s => do
    let before ← get
    match ← round s with
    | .inr a => pure a
    | .inl s =>
      checkProgress before.position
      loop round fuel s

/-- One more item, unless the closing token is in front; without a comma behind it the item is the last. -/
def listRound {α : Type} (item : Scan α) (close : Token.Kind) (context : Context) (found : List α) :
    Scan (List α ⊕ List α × Token) := do
  match ← eat close with
  | some t => pure (.inr (found, t))
  | none =>
    let a ← item
    match ← eat .comma with
    | some _ => pure (.inl (found ++ [a]))
    | none =>
      let t ← expect close context
      pure (.inr (found ++ [a], t))

/-- Items with commas between them and perhaps behind the last, up to the closing token. -/
def listed {α : Type} (fuel : Nat) (item : Scan α) (close : Token.Kind) (context : Context) :
    Scan (List α × Token) :=
  loop (listRound item close context) fuel []

/-! Clauses without expressions inside. -/

def labelList (fuel : Nat) (context : Context) : Scan (List String) := do
  let _ ← expect .leftParen context
  let (found, _) ← listed fuel (Token.text <$> expect .identifier context) .rightParen context
  pure found

/-- One of two words, if it is in front. -/
def eatEither {α : Type} (first second : String × α) : Scan (Option (α × Token)) := do
  match ← eatWord first.1 with
  | some t => pure (some (first.2, t))
  | none =>
    match ← eatWord second.1 with
    | some t => pure (some (second.2, t))
    | none => pure none

def included (fuel : Nat) : Scan (List String) := do
  if (← peek).kind = .leftParen then labelList fuel .grouping else pure []

def vectorMatching (fuel : Nat) (op : BinaryOp) : Scan (Option Matching) := do
  match ← eatEither ("on", true) ("ignoring", false) with
  | none => pure none
  | some (on, _) =>
    let found ← labelList fuel .vectorMatching
    match ← eatEither ("group_left", .manyToOne) ("group_right", .oneToMany) with
    | none => pure (some ⟨on, found, .oneToOne, []⟩)
    | some (card, t) =>
      if op.isSetOperator then build (fail t.span .setGrouping)
      else
        let others ← included fuel
        pure (some ⟨on, found, card, others⟩)

def grouping (fuel : Nat) : Scan (Option Grouping) := do
  match ← eatEither ("by", false) ("without", true) with
  | none => pure none
  | some (without, _) =>
    let found ← labelList fuel .grouping
    pure (some ⟨without, found⟩)

def minus : Scan Bool := Option.isSome <$> eat .sub

def duration (context : Context) : Scan (Nat × Token) := do
  let t ← expect .duration context
  match Literal.Duration.read t.text with
  | .ok ms => pure (ms, t)
  | .error e => build (fail t.span (.duration e))

/-! What may follow a primary expression. -/

def subqueryStep : Scan (Option Nat) := do
  if (← peek).kind = .duration then (fun (ms, _) => some ms) <$> duration .subqueryStep else pure none

def window (e : Expr) : Scan Expr := do
  let bracket ← advance
  let (ms, _) ← duration .range
  match ← eat .colon with
  | some _ =>
    let step ← subqueryStep
    let close ← expect .rightBracket .subquery
    if e.valueType ≠ .vector then build (fail e.span (.subqueryType e.valueType))
    else pure (.subquery e ms step {} (e.span.cover close.span))
  | none =>
    let close ← expect .rightBracket .rangeSelector
    match e with
    | .vector selector => pure (.matrix selector ms (selector.span.cover close.span))
    | e => build (fail (bracket.span.cover close.span) (.rangeType e.valueType))

def offset (e : Expr) : Scan Expr := do
  let keyword ← advance
  let negative ← minus
  let (ms, t) ← duration .offset
  match e.modifiers? with
  | none => build (fail keyword.span .offsetMisplaced)
  | some modifiers =>
    if modifiers.offset.isSome then build (fail (keyword.span.cover t.span) .offsetRepeated)
    else
      let value : Int := if negative then -(ms : Int) else ms
      pure (e.modify { modifiers with offset := some value } t.span)

def instant : Scan (Instant × Text.Span) := do
  match ← eatEither ("start", Instant.start) ("end", Instant.stop) with
  | some (value, _) =>
    let _ ← expect .leftParen .instant
    let close ← expect .rightParen .instant
    pure (value, close.span)
  | none =>
    let negative ← minus
    let t ← expect .number .instant
    let value ← build (Parser.number t)
    let value := if negative then value.neg else value
    if value.isFinite then pure (.timestamp value, t.span)
    else build (fail t.span .instantInfinite)

def pinned (e : Expr) : Scan Expr := do
  let sign ← advance
  let (value, last) ← instant
  match e.modifiers? with
  | none => build (fail sign.span .instantMisplaced)
  | some modifiers =>
    if modifiers.instant.isSome then build (fail (sign.span.cover last) .instantRepeated)
    else pure (e.modify { modifiers with instant := some value } last)

def suffixRound (e : Expr) : Scan (Expr ⊕ Expr) := do
  let t ← peek
  if t.kind = .leftBracket then Sum.inl <$> window e
  else if isWord "offset" t then Sum.inl <$> offset e
  else if t.kind = .at then Sum.inl <$> pinned e
  else pure (.inr e)

/-! Selectors. -/

def matcher : Scan Matcher := do
  let label ← expect .identifier .labelMatching
  let t ← advance
  match MatchOp.ofKind? t.kind with
  | none => build (unexpected t .labelMatching .matchOperator)
  | some op =>
    let value ← expect .string .labelMatching
    let decoded ← build (Parser.string value)
    pure ⟨label.text, op, decoded, label.span.cover value.span⟩

/-- Takes the name of a selector; one without a name starts where it is. -/
def selectorStart : Option Token → Scan Text.Span
  | some t => do
    let _ ← advance
    pure t.span
  | none => Token.span <$> peek

def selector [Pattern.Engine] (fuel : Nat) (name : Option Token) : Scan Expr := watched do
  let start ← selectorStart name
  let named := (name.map nameMatcher).toList
  match ← eat .leftBrace with
  | none => build (finishSelector (name.map Token.text) named start)
  | some brace =>
    let (found, close) ← listed fuel matcher .rightBrace .labelMatching
    build (finishSelector (name.map Token.text) (named ++ found)
      ((start.cover brace.span).cover close.span))

/-! Expressions. Readers are given the reader `nested` of the expressions inside; its argument is the least
level of operators. -/

section

variable (nested : Nat → Scan Expr) (fuel : Nat)

def call (t : Token) : Scan Expr := watched do
  match Signature.lookup? t.text with
  | none => build (fail t.span (.unknownFunction t.text))
  | some function =>
    let _ ← advance
    let _ ← expect .leftParen .functionCall
    let (args, close) ← listed fuel (nested 0) .rightParen .arguments
    build (buildCall function args (t.span.cover close.span))

def aggregate (op : AggregateOp) (t : Token) : Scan Expr := watched do
  let _ ← advance
  let leading ← grouping fuel
  let _ ← expect .leftParen .aggregation
  let (args, close) ← listed fuel (nested 0) .rightParen .aggregation
  match leading with
  | some clause => build (buildAggregate op args clause (t.span.cover close.span))
  | none =>
    match ← grouping fuel with
    | some clause =>
      let last ← previous
      build (buildAggregate op args clause (t.span.cover last.span))
    | none => build (buildAggregate op args {} (t.span.cover close.span))

section

variable [Pattern.Engine]

/-- What starts with a word, which is not yet taken. -/
def ofWord (t : Token) : Scan Expr := do
  let word := Text.lower t.text
  let next ← peekNth 1
  match numberWord? word with
  | some value =>
    let _ ← advance
    pure (.number value t.span)
  | none =>
    match AggregateOp.ofName? t.text,
        next.kind = .leftParen || isWord "by" next || isWord "without" next with
    | some op, true => aggregate nested fuel op t
    | _, _ =>
      if next.kind = .leftParen then call nested fuel t
      else if isReserved word then build (unexpected t .expression .anything)
      else selector fuel (some t)

def primary : Scan Expr := watched do
  let t ← peek
  match t.kind with
  | .number =>
    let _ ← advance
    let value ← build (Parser.number t)
    pure (.number value t.span)
  | .string =>
    let _ ← advance
    let value ← build (Parser.string t)
    pure (.string value t.span)
  | .leftParen =>
    let _ ← advance
    let e ← nested 0
    let close ← expect .rightParen .parentheses
    pure (.paren e (t.span.cover close.span))
  | .leftBrace => selector fuel none
  | .identifier => ofWord nested fuel t
  | _ => build (unexpected t .expression .anything)

def suffixed : Scan Expr := watched do
  let e ← primary nested fuel
  loop suffixRound fuel e

def operand : Scan Expr := watched do
  match UnaryOp.ofKind? (← peek).kind with
  | none => suffixed nested fuel
  | some op =>
    let sign ← advance
    let e ← nested BinaryOp.pow.precedence
    build (buildUnary op sign.span e)

end

def boolFlag (op : BinaryOp) : Scan Bool :=
  if op.isComparison then Option.isSome <$> eatWord "bool" else pure false

def operatorRound (least : Nat) (lhs : Expr) : Scan (Expr ⊕ Expr) := do
  match BinaryOp.ofToken? (← peek) with
  | none => pure (.inr lhs)
  | some op =>
    if op.precedence < least then pure (.inr lhs)
    else
      let t ← advance
      let returnsBool ← boolFlag op
      let matching ← vectorMatching fuel op
      let rhs ← nested op.rightLevel
      let e ← build (buildBinary op t.span lhs rhs returnsBool matching)
      pure (.inl e)

end

variable [Pattern.Engine]

/-- An expression whose operators have at least the level `least`. The fuel bounds how deep expressions are
nested, and how often every loop goes round. -/
def expr : Nat → Nat → Scan Expr
  | 0, _ => throw (.fault .noFuel)
  | fuel + 1, least => watched do
    let lhs ← operand (expr fuel) fuel
    loop (operatorRound (expr fuel) fuel least) fuel lhs

/-- An expression that takes all tokens. -/
def whole (fuel : Nat) : Scan Expr := do
  let t ← peek
  if t.kind = .eof then build (fail t.span .empty)
  else
    let e ← expr fuel 0
    let t ← peek
    if t.kind ≠ .eof then build (unexpected t .expression .anything) else pure e

/-- Reads tokens that end with the end of input. -/
def run (tokens : List Token) (fuel : Nat) : Except Stop (Expr × Cursor) :=
  ((whole fuel).run tokens).run {}

end Cursor

end QueryLint
