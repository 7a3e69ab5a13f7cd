import QueryLint.Expr.Basic
import QueryLint.Expr.Error
import QueryLint.Literal.Duration
import QueryLint.Number.Decimal
import QueryLint.Pattern.Engine

/-! Reading an expression from its tokens.

Every reader takes the tokens in front and returns those behind, with the proof that it took some:
this is what makes the recursion end. The token `eof`, which is never in the list, stands for the
end of the text in errors. Lexical faults are all reported; of the others only the first. -/

set_option autoImplicit false

namespace QueryLint

namespace Parser

open Number (Double)
open ParseError (Cause Context Expectation Role)
open Text (Span)

/-- Tokens that remain when at least one of `ts` was taken. -/
abbrev Fewer (ts : List Token) := { rest : List Token // rest.length < ts.length }

/-- Tokens that remain when perhaps some of `ts` were taken. -/
abbrev AtMost (ts : List Token) := { rest : List Token // rest.length ≤ ts.length }

/-- A reader's answer on `ts`, if it always takes a token. -/
abbrev Reads (α : Type) (ts : List Token) := Except ParseError (α × Fewer ts)

/-- A reader's answer on `ts`, if it may leave all tokens. -/
abbrev MayRead (α : Type) (ts : List Token) := Except ParseError (α × AtMost ts)

def fail {α : Type} (span : Span) (cause : Cause) : Except ParseError α :=
  .error ⟨span, cause⟩

def unexpected {α : Type} (t : Token) (context : Context) (expected : Expectation) :
    Except ParseError α :=
  fail t.span (.unexpected t.kind t.text context expected)

/-- Takes a token of a kind. -/
def expect (eof : Token) (kind : Token.Kind) (context : Context) (ts : List Token) :
    Reads Token ts :=
  match ts with
  | [] => unexpected eof context (.kind kind)
  | t :: rest =>
    if t.kind = kind then .ok (t, ⟨rest, by simp⟩) else unexpected t context (.kind kind)

/-- Takes a token of a kind if it is in front. -/
def eat? (kind : Token.Kind) (ts : List Token) : Option (Token × Fewer ts) :=
  match ts with
  | [] => none
  | t :: rest => if t.kind = kind then some (t, ⟨rest, by simp⟩) else none

/-- Whether a token is a word, in any case. -/
def isWord (word : String) (t : Token) : Bool :=
  t.kind = .identifier && Text.lower t.text = word

/-- Takes a word if it is in front. -/
def eatWord? (word : String) (ts : List Token) : Option (Token × Fewer ts) :=
  match ts with
  | [] => none
  | t :: rest => if isWord word t then some (t, ⟨rest, by simp⟩) else none

/-! Clauses without expressions inside. -/

/-- Labels up to the closing parenthesis, which is returned too. -/
def labels (eof : Token) (context : Context) (ts : List Token) :
    Reads (List String × Token) ts :=
  match eat? .rightParen ts with
  | some (close, rest) => .ok (([], close), rest)
  | none => do
    let (label, ⟨r₁, _⟩) ← expect eof .identifier context ts
    match eat? .comma r₁ with
    | some (_, ⟨r₂, _⟩) =>
      let ((more, close), ⟨r₃, _⟩) ← labels eof context r₂
      pure ((label.text :: more, close), ⟨r₃, by omega⟩)
    | none =>
      let (close, ⟨r₂, _⟩) ← expect eof .rightParen context r₁
      pure (([label.text], close), ⟨r₂, by omega⟩)
  termination_by ts.length

/-- Labels in parentheses; a comma may stand behind the last. -/
def labelList (eof : Token) (context : Context) (ts : List Token) :
    Reads (List String × Token) ts := do
  let (_, ⟨r₁, _⟩) ← expect eof .leftParen context ts
  let (found, ⟨r₂, _⟩) ← labels eof context r₁
  pure (found, ⟨r₂, by omega⟩)

/-- The side with many series, if a word in front names it. -/
def cardinality? (ts : List Token) : Option ((Cardinality × Token) × Fewer ts) :=
  match eatWord? "group_left" ts with
  | some (t, rest) => some ((.manyToOne, t), rest)
  | none => (eatWord? "group_right" ts).map fun (t, rest) => ((.oneToMany, t), rest)

/-- Labels of the other side to include, if some are listed. -/
def included (eof : Token) (ts : List Token) : MayRead (List String) ts :=
  match eat? .leftParen ts with
  | none => .ok ([], ⟨ts, Nat.le_refl _⟩)
  | some _ => do
    let ((found, _), ⟨rest, _⟩) ← labelList eof .grouping ts
    pure (found, ⟨rest, by omega⟩)

/-- Whether matching is on labels or ignores them, if a word in front says so. -/
def matchingSide? (ts : List Token) : Option (Bool × Fewer ts) :=
  match eatWord? "on" ts with
  | some (_, rest) => some (true, rest)
  | none => (eatWord? "ignoring" ts).map fun (_, rest) => (false, rest)

/-- How the two sides of an operator are matched, if the tokens in front say so. -/
def vectorMatching (eof : Token) (op : BinaryOp) (ts : List Token) :
    MayRead (Option Matching) ts :=
  match matchingSide? ts with
  | none => .ok (none, ⟨ts, Nat.le_refl _⟩)
  | some (on, ⟨r₁, _⟩) => do
    let ((found, _), ⟨r₂, _⟩) ← labelList eof .vectorMatching r₁
    match cardinality? r₂ with
    | none => pure (some ⟨on, found, .oneToOne, []⟩, ⟨r₂, by omega⟩)
    | some ((card, t), ⟨r₃, _⟩) =>
      if op.isSetOperator then fail t.span .setGrouping
      else
        let (others, ⟨r₄, _⟩) ← included eof r₃
        pure (some ⟨on, found, card, others⟩, ⟨r₄, by omega⟩)

/-- Whether a word in front groups by labels or without them. -/
def groupingSide? (ts : List Token) : Option (Bool × Fewer ts) :=
  match eatWord? "by" ts with
  | some (_, rest) => some (false, rest)
  | none => (eatWord? "without" ts).map fun (_, rest) => (true, rest)

/-- A grouping clause with its last token, if one is in front. -/
def grouping? (eof : Token) (ts : List Token) : MayRead (Option (Grouping × Token)) ts :=
  match groupingSide? ts with
  | none => .ok (none, ⟨ts, Nat.le_refl _⟩)
  | some (without, ⟨r₁, _⟩) => do
    let ((found, close), ⟨r₂, _⟩) ← labelList eof .grouping r₁
    pure (some (⟨without, found⟩, close), ⟨r₂, by omega⟩)

/-- A duration in milliseconds, with its token. -/
def duration (eof : Token) (context : Context) (ts : List Token) : Reads (Nat × Token) ts := do
  let (t, rest) ← expect eof .duration context ts
  match Literal.Duration.read t.text with
  | .ok ms => pure ((ms, t), rest)
  | .error e => fail t.span (.duration e)

/-- Hexadecimal digits of a number, if it is written so. -/
def hexDigits? : List Char → Option (List Char)
  | '0' :: 'x' :: digits => some digits
  | '0' :: 'X' :: digits => some digits
  | _ => none

/-- Value of a number; hexadecimal ones end below two to the power 63. -/
def numberValue? (text : String) : Option Double :=
  match hexDigits? text.toList with
  | some [] => none
  | some digits => do
    let n ← Literal.Quoted.hexValue? digits
    if n < 0x8000000000000000 then some (Double.ofNat n) else none
  | none => Number.Decimal.read? text.toList

def number (t : Token) : Except ParseError Double :=
  match numberValue? t.text with
  | some value => .ok value
  | none => fail t.span (.number t.text)

def string (t : Token) : Except ParseError String :=
  match Literal.Quoted.read t.text with
  | .ok value => .ok value
  | .error e => fail t.span (.string e)

/-- Takes a minus sign if it is in front. -/
def minus (ts : List Token) : Bool × AtMost ts :=
  match eat? .sub ts with
  | some (_, ⟨rest, _⟩) => (true, ⟨rest, by omega⟩)
  | none => (false, ⟨ts, Nat.le_refl _⟩)

/-! What may follow a primary expression. -/

/-- A range or subquery; the opening bracket `bracket` is already taken. -/
def window (eof : Token) (bracket : Token) (e : Expr) (ts : List Token) : Reads Expr ts := do
  let ((ms, _), ⟨r₁, _⟩) ← duration eof .range ts
  match eat? .colon r₁ with
  | some (_, ⟨r₂, _⟩) =>
    let (step, ⟨r₃, _⟩) ← (match eat? .duration r₂ with
      | some _ => do
        let ((ms, _), ⟨rest, _⟩) ← duration eof .subqueryStep r₂
        pure (some ms, ⟨rest, by omega⟩)
      | none => pure (none, ⟨r₂, Nat.le_refl _⟩) : MayRead (Option Nat) r₂)
    let (close, ⟨r₄, _⟩) ← expect eof .rightBracket .subquery r₃
    if e.valueType ≠ .vector then fail e.span (.subqueryType e.valueType)
    else pure (.subquery e ms step {} (e.span.cover close.span), ⟨r₄, by omega⟩)
  | none =>
    let (close, ⟨r₂, _⟩) ← expect eof .rightBracket .rangeSelector r₁
    match e with
    | .vector selector =>
      pure (.matrix selector ms (selector.span.cover close.span), ⟨r₂, by omega⟩)
    | e => fail (bracket.span.cover close.span) (.rangeType e.valueType)

/-- An offset; its keyword is already taken. -/
def offset (eof : Token) (keyword : Token) (e : Expr) (ts : List Token) : Reads Expr ts := do
  let (negative, ⟨r₁, _⟩) := minus ts
  let ((ms, t), ⟨r₂, _⟩) ← duration eof .offset r₁
  match e.modifiers? with
  | none => fail keyword.span .offsetMisplaced
  | some modifiers =>
    if modifiers.offset.isSome then fail (keyword.span.cover t.span) .offsetRepeated
    else
      let value : Int := if negative then -(ms : Int) else ms
      pure (e.modify { modifiers with offset := some value } t.span, ⟨r₂, by omega⟩)

/-- The value of an `@` modifier, and where it ends. -/
def instant (eof : Token) (ts : List Token) : Reads (Instant × Span) ts := do
  match (eatWord? "start" ts).map (·, Instant.start) <|>
      (eatWord? "end" ts).map (·, Instant.stop) with
  | some ((_, ⟨r₁, _⟩), value) =>
    let (_, ⟨r₂, _⟩) ← expect eof .leftParen .instant r₁
    let (close, ⟨r₃, _⟩) ← expect eof .rightParen .instant r₂
    pure ((value, close.span), ⟨r₃, by omega⟩)
  | none =>
    let (negative, ⟨r₁, _⟩) := minus ts
    let (t, ⟨r₂, _⟩) ← expect eof .number .instant r₁
    let value ← number t
    let value := if negative then value.neg else value
    if value.isFinite then pure ((.timestamp value, t.span), ⟨r₂, by omega⟩)
    else fail t.span .instantInfinite

/-- An `@` modifier; its sign is already taken. -/
def pinned (eof : Token) (sign : Token) (e : Expr) (ts : List Token) : Reads Expr ts := do
  let ((value, last), rest) ← instant eof ts
  match e.modifiers? with
  | none => fail sign.span .instantMisplaced
  | some modifiers =>
    if modifiers.instant.isSome then fail (sign.span.cover last) .instantRepeated
    else pure (e.modify { modifiers with instant := some value } last, rest)

/-- Ranges, subqueries and modifiers behind an expression, as many as there are. -/
def suffixes (eof : Token) (e : Expr) (ts : List Token) : MayRead Expr ts :=
  match ts with
  | [] => .ok (e, ⟨[], Nat.le_refl _⟩)
  | t :: rest =>
    let further (answer : Reads Expr rest) : MayRead Expr (t :: rest) := do
      let (e, ⟨r₁, _⟩) ← answer
      let (e, ⟨r₂, _⟩) ← suffixes eof e r₁
      pure (e, ⟨r₂, by simp only [List.length_cons]; omega⟩)
    if t.kind = .leftBracket then further (window eof t e rest)
    else if isWord "offset" t then further (offset eof t e rest)
    else if t.kind = .at then further (pinned eof t e rest)
    else .ok (e, ⟨t :: rest, Nat.le_refl _⟩)
  termination_by ts.length

/-! Selectors. -/

/-- A condition on a label. -/
def matcher (eof : Token) (ts : List Token) : Reads Matcher ts := do
  let (label, ⟨r₁, _⟩) ← expect eof .identifier .labelMatching ts
  let t := r₁.headD eof
  match MatchOp.ofKind? t.kind with
  | none => unexpected t .labelMatching .matchOperator
  | some op =>
    let (value, ⟨r₂, _⟩) ← expect eof .string .labelMatching r₁.tail
    let decoded ← string value
    pure (⟨label.text, op, decoded, label.span.cover value.span⟩,
      ⟨r₂, by simp only [List.length_tail] at *; omega⟩)

/-- Matchers up to the closing brace, which is returned too. -/
def matchers (eof : Token) (ts : List Token) : Reads (List Matcher × Token) ts :=
  match eat? .rightBrace ts with
  | some (close, rest) => .ok (([], close), rest)
  | none => do
    let (first, ⟨r₁, _⟩) ← matcher eof ts
    match eat? .comma r₁ with
    | some (_, ⟨r₂, _⟩) =>
      let ((more, close), ⟨r₃, _⟩) ← matchers eof r₂
      pure ((first :: more, close), ⟨r₃, by omega⟩)
    | none =>
      let (close, ⟨r₂, _⟩) ← expect eof .rightBrace .labelMatching r₁
      pure (([first], close), ⟨r₂, by omega⟩)
  termination_by ts.length

section

variable [Pattern.Engine]

/-- Whether a matcher accepts an absent label. Patterns must match the whole value. -/
def acceptsEmpty (m : Matcher) : Except ParseError Bool :=
  match m.op with
  | .equal => .ok (m.value == "")
  | .notEqual => .ok (m.value != "")
  | .regex | .notRegex =>
    match Pattern.Engine.compile ("^(?:" ++ m.value ++ ")$") with
    | .ok test => .ok (test "" == (m.op == .regex))
    | .error report => fail m.span (.pattern m.label report)

/-- Tells for every matcher whether it accepts an absent label. -/
def acceptances : List Matcher → Except ParseError (List Bool)
  | [] => .ok []
  | m :: rest => do
    let first ← acceptsEmpty m
    let more ← acceptances rest
    pure (first :: more)

/-- Builds a selector; some matcher must reject an absent label. -/
def finishSelector (name : Option String) (found : List Matcher) (span : Span) :
    Except ParseError Expr := do
  let accepted ← acceptances found
  if accepted.all id then fail span .emptySelector
  else pure (.vector ⟨name, found, {}, span⟩)

/-- The braces of a selector; the opening one is already taken. -/
def braces (eof : Token) (name : Option String) (named : List Matcher) (start : Span)
    (ts : List Token) : Reads Expr ts := do
  let ((found, close), rest) ← matchers eof ts
  let e ← finishSelector name (named ++ found) (start.cover close.span)
  pure (e, rest)

/-- The matcher that the name of a selector stands for. -/
def nameMatcher (t : Token) : Matcher :=
  ⟨metricNameLabel, .equal, t.text, t.span⟩

/-- A selector with a name, which is already taken, and perhaps braces. -/
def namedSelector (eof : Token) (name : Token) (ts : List Token) : MayRead Expr ts :=
  match eat? .leftBrace ts with
  | none => do
    let e ← finishSelector (some name.text) [nameMatcher name] name.span
    pure (e, ⟨ts, Nat.le_refl _⟩)
  | some (brace, ⟨r₁, _⟩) => do
    let (e, ⟨r₂, _⟩) ←
      braces eof (some name.text) [nameMatcher name] (name.span.cover brace.span) r₁
    pure (e, ⟨r₂, by omega⟩)

end

/-! Types. -/

/-- Requires an argument to be of a type that is taken where `expected` is. -/
def checkType (e : Expr) (expected : ValueType) (role : Role) : Except ParseError Unit :=
  if expected.accepts e.valueType then .ok ()
  else fail e.span (.argumentType expected role e.valueType)

/-- Requires the arguments from `index` on to have the types of the signature. -/
def checkArguments (function : Signature) (index : Nat) : List Expr → Except ParseError Unit
  | [] => .ok ()
  | e :: rest => do
    match function.argType? index with
    | some expected => checkType e expected (.argument function.name)
    | none => pure ()
    checkArguments function (index + 1) rest

def buildCall (function : Signature) (args : List Expr) (span : Span) : Except ParseError Expr :=
  if function.acceptsCount args.length then do
    checkArguments function 0 args
    pure (.call function.name args function.returnType span)
  else fail span (.argumentCount function args.length)

def buildAggregate (op : AggregateOp) (args : List Expr) (grouping : Grouping) (span : Span) :
    Except ParseError Expr :=
  match op.paramType?, args with
  | some expected, [param, body] => do
    checkType param expected .parameter
    checkType body .vector .body
    pure (.aggregate op (some param) body grouping span)
  | none, [body] => do
    checkType body .vector .body
    pure (.aggregate op none body grouping span)
  | paramType, args =>
    fail span (.aggregateCount (if paramType.isSome then 2 else 1) args.length)

/-- A binary expression, unless its operands do not fit its operator. -/
def buildBinary (op : BinaryOp) (opSpan : Span) (lhs rhs : Expr) (returnsBool : Bool)
    (matching : Option Matching) : Except ParseError Expr :=
  let left := lhs.valueType
  let right := rhs.valueType
  if !left.isNumeric then fail lhs.span (.operandType left)
  else if !right.isNumeric then fail rhs.span (.operandType right)
  else if op.isSetOperator && (left == .scalar || right == .scalar) then
    fail opSpan (.setOperandScalar op)
  else if op.isComparison && !returnsBool && left == .scalar && right == .scalar then
    fail opSpan .scalarComparison
  else if returnsBool && !op.isComparison then fail opSpan .boolMisplaced
  else if matching.isSome && (left != .vector || right != .vector) then
    fail opSpan .matchingOperands
  else .ok (.binary op lhs rhs returnsBool matching (lhs.span.cover rhs.span))

/-- An expression behind a sign; the sign of a number becomes part of it. -/
def buildUnary (op : UnaryOp) (sign : Span) (operand : Expr) : Except ParseError Expr :=
  let span := sign.cover operand.span
  match operand with
  | .number value _ =>
    .ok (.number (match op with | .plus => value | .minus => value.neg) span)
  | operand =>
    if operand.valueType.isNumeric then .ok (.unary op operand span)
    else fail operand.span (.signedType operand.valueType)

/-! Expressions. -/

/-- Words that are no metric names. -/
def isReserved (word : String) : Bool :=
  ["and", "or", "unless", "atan2", "by", "without", "on", "ignoring", "group_left", "group_right",
    "bool", "offset"].contains word

/-- The number that a word stands for. -/
def numberWord? (word : String) : Option Double :=
  if word = "inf" then some Double.infinity else if word = "nan" then some Double.nan else none

/-- Takes the word `bool` behind a comparison. -/
def boolFlag (op : BinaryOp) (ts : List Token) : Bool × AtMost ts :=
  if op.isComparison then
    match eatWord? "bool" ts with
    | some (_, ⟨rest, _⟩) => (true, ⟨rest, by omega⟩)
    | none => (false, ⟨ts, Nat.le_refl _⟩)
  else (false, ⟨ts, Nat.le_refl _⟩)

/-- Whether a name before the tokens can start an aggregation. -/
def startsAggregate (ts : List Token) : Bool :=
  ts.head?.any fun t => t.kind = .leftParen || isWord "by" t || isWord "without" t

section

variable [Pattern.Engine]

mutual

/-- An expression whose operators have at least the level `least`. -/
def expr (eof : Token) (least : Nat) (ts : List Token) : Reads Expr ts := do
  let (lhs, ⟨r₁, _⟩) ← operand eof ts
  let (e, ⟨r₂, _⟩) ← chain eof least lhs r₁
  pure (e, ⟨r₂, by omega⟩)
  termination_by (ts.length, 3)

/-- Operators of at least the level `least`, with their right operands, behind `lhs`. -/
def chain (eof : Token) (least : Nat) (lhs : Expr) (ts : List Token) : MayRead Expr ts :=
  match ts with
  | [] => .ok (lhs, ⟨[], Nat.le_refl _⟩)
  | t :: rest =>
    match BinaryOp.ofToken? t with
    | none => .ok (lhs, ⟨t :: rest, Nat.le_refl _⟩)
    | some op =>
      if op.precedence < least then .ok (lhs, ⟨t :: rest, Nat.le_refl _⟩)
      else do
        let (returnsBool, ⟨r₁, _⟩) := boolFlag op rest
        let (matching, ⟨r₂, _⟩) ← vectorMatching eof op r₁
        let (rhs, ⟨r₃, _⟩) ← expr eof op.rightLevel r₂
        let e ← buildBinary op t.span lhs rhs returnsBool matching
        let (e, ⟨r₄, _⟩) ← chain eof least e r₃
        pure (e, ⟨r₄, by simp only [List.length_cons]; omega⟩)
  termination_by (ts.length, 0)

/-- A primary expression with its suffixes, or a sign and what it applies to. A sign binds less
tightly than a power and more tightly than all other operators. -/
def operand (eof : Token) (ts : List Token) : Reads Expr ts :=
  match ts with
  | [] => unexpected eof .expression .anything
  | t :: rest =>
    match UnaryOp.ofKind? t.kind with
    | some op => do
      let (e, ⟨r₁, _⟩) ← expr eof BinaryOp.pow.precedence rest
      let e ← buildUnary op t.span e
      pure (e, ⟨r₁, by simp only [List.length_cons]; omega⟩)
    | none => do
      let (e, ⟨r₁, _⟩) ← primary eof t rest
      let (e, ⟨r₂, _⟩) ← suffixes eof e r₁
      pure (e, ⟨r₂, by simp only [List.length_cons]; omega⟩)
  termination_by (ts.length, 2)

/-- A literal, an expression in parentheses, a selector, a call or an aggregation that starts with
the token `t`. -/
def primary (eof : Token) (t : Token) (ts : List Token) : MayRead Expr ts :=
  match t.kind with
  | .number => do
    let value ← number t
    pure (.number value t.span, ⟨ts, Nat.le_refl _⟩)
  | .string => do
    let value ← string t
    pure (.string value t.span, ⟨ts, Nat.le_refl _⟩)
  | .leftParen => do
    let (e, ⟨r₁, _⟩) ← expr eof 0 ts
    let (close, ⟨r₂, _⟩) ← expect eof .rightParen .parentheses r₁
    pure (.paren e (t.span.cover close.span), ⟨r₂, by omega⟩)
  | .leftBrace => do
    let (e, ⟨r₁, _⟩) ← braces eof none [] t.span ts
    pure (e, ⟨r₁, by omega⟩)
  | .identifier =>
    let word := Text.lower t.text
    match numberWord? word with
    | some value => .ok (.number value t.span, ⟨ts, Nat.le_refl _⟩)
    | none =>
      match AggregateOp.ofName? t.text, startsAggregate ts with
      | some op, true => aggregation eof op t ts
      | _, _ =>
        match eat? .leftParen ts with
        | some (_, ⟨r₁, _⟩) =>
          match Signature.lookup? t.text with
          | none => fail t.span (.unknownFunction t.text)
          | some function => do
            let ((args, close), ⟨r₂, _⟩) ← arguments eof .arguments r₁
            let e ← buildCall function args (t.span.cover close.span)
            pure (e, ⟨r₂, by omega⟩)
        | none =>
          if isReserved word then unexpected t .expression .anything
          else namedSelector eof t ts
  | _ => unexpected t .expression .anything
  termination_by (ts.length, 4)

/-- An aggregation whose operator is already taken; the grouping stands before or behind the
arguments. -/
def aggregation (eof : Token) (op : AggregateOp) (t : Token) (ts : List Token) :
    MayRead Expr ts := do
  let (leading, ⟨r₁, _⟩) ← grouping? eof ts
  let (_, ⟨r₂, _⟩) ← expect eof .leftParen .aggregation r₁
  let ((args, close), ⟨r₃, _⟩) ← arguments eof .aggregation r₂
  match leading with
  | some (grouping, _) =>
    let e ← buildAggregate op args grouping (t.span.cover close.span)
    pure (e, ⟨r₃, by omega⟩)
  | none =>
    let (trailing, ⟨r₄, _⟩) ← grouping? eof r₃
    let (grouping, last) := trailing.getD ({}, close)
    let e ← buildAggregate op args grouping (t.span.cover last.span)
    pure (e, ⟨r₄, by omega⟩)
  termination_by (ts.length, 3)

/-- Arguments up to the closing parenthesis, which is returned too; a comma may stand behind the
last. -/
def arguments (eof : Token) (context : Context) (ts : List Token) :
    Reads (List Expr × Token) ts :=
  match eat? .rightParen ts with
  | some (close, rest) => .ok (([], close), rest)
  | none => do
    let (first, ⟨r₁, _⟩) ← expr eof 0 ts
    match eat? .comma r₁ with
    | some (_, ⟨r₂, _⟩) =>
      let ((more, close), ⟨r₃, _⟩) ← arguments eof context r₂
      pure ((first :: more, close), ⟨r₃, by omega⟩)
    | none =>
      let (close, ⟨r₂, _⟩) ← expect eof .rightParen context r₁
      pure (([first], close), ⟨r₂, by omega⟩)
  termination_by (ts.length, 4)

end

/-- An expression that takes all tokens. -/
def whole (eof : Token) (ts : List Token) : Except ParseError Expr :=
  match ts with
  | [] => fail eof.span .empty
  | ts => do
    let (e, ⟨rest, _⟩) ← expr eof 0 ts
    match rest with
    | [] => pure e
    | t :: _ => unexpected t .expression .anything

end

end Parser

/-- Reads an expression; the errors of a text are never an empty list. -/
def Expr.parse [Pattern.Engine] (source : String) : Except (List ParseError) Expr :=
  match (Token.items source).filterMap Token.Item.fault? with
  | [] =>
    match Parser.whole (Token.eof source) ((Token.items source).filterMap Token.Item.token?) with
    | .ok e => .ok e
    | .error e => .error [e]
  | faults => .error (faults.map fun (fault, span) => ⟨span, .lexical fault⟩)

end QueryLint
