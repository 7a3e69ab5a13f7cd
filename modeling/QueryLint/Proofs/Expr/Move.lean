import QueryLint.Proofs.Grammar.Sound
import QueryLint.Proofs.Token.Move

/-! Readers do not look at spans.

Every reader, given moved tokens, gives its old answer moved: the same tree, or the same error, at
other places.
-/

set_option autoImplicit false

namespace QueryLint

open Text (Span)
open Text.Span (Move)

def Matcher.move (φ : Move) (m : Matcher) : Matcher :=
  { m with span := φ.map m.span }

def Selector.move (φ : Move) (s : Selector) : Selector :=
  { s with matchers := s.matchers.map (·.move φ), span := φ.map s.span }

mutual

/-- The same tree at other places. -/
def Expr.move (φ : Move) : Expr → Expr
  | .number value span => .number value (φ.map span)
  | .string value span => .string value (φ.map span)
  | .vector selector => .vector (selector.move φ)
  | .matrix selector window span => .matrix (selector.move φ) window (φ.map span)
  | .subquery body window step modifiers span =>
    .subquery (body.move φ) window step modifiers (φ.map span)
  | .paren body span => .paren (body.move φ) (φ.map span)
  | .unary op body span => .unary op (body.move φ) (φ.map span)
  | .binary op lhs rhs returnsBool matching span =>
    .binary op (lhs.move φ) (rhs.move φ) returnsBool matching (φ.map span)
  | .call function args type span => .call function (moveAll φ args) type (φ.map span)
  | .aggregate op none body grouping span =>
    .aggregate op none (body.move φ) grouping (φ.map span)
  | .aggregate op (some param) body grouping span =>
    .aggregate op (some (param.move φ)) (body.move φ) grouping (φ.map span)

def Expr.moveAll (φ : Move) : List Expr → List Expr
  | [] => []
  | e :: es => e.move φ :: moveAll φ es

end

@[simp] theorem Expr.moveAll_eq (φ : Move) (es : List Expr) : moveAll φ es = es.map (move φ) := by
  induction es with
  | nil => rfl
  | cons e es ih => rw [moveAll, ih, List.map_cons]

def ParseError.move (φ : Move) (e : ParseError) : ParseError :=
  { e with span := φ.map e.span }

namespace Expr

@[simp] theorem move_span (φ : Move) (e : Expr) : (e.move φ).span = φ.map e.span := by
  cases e with
  | aggregate _ param => cases param <;> simp [move, span]
  | _ => simp [move, span, Selector.move]

@[simp] theorem move_valueType (φ : Move) (e : Expr) : (e.move φ).valueType = e.valueType := by
  fun_induction valueType e with
  | case6 _ _ ih | case7 _ _ _ ih => exact ih
  | case8 _ _ _ _ _ _ scalars ihLhs ihRhs | case9 _ _ _ _ _ _ scalars ihLhs ihRhs =>
    simp [move, valueType, ihLhs, ihRhs, scalars]
  | case11 _ param => cases param <;> rfl
  | _ => rfl

@[simp] theorem move_modifiers? (φ : Move) (e : Expr) : (e.move φ).modifiers? = e.modifiers? := by
  cases e with
  | aggregate _ param => cases param <;> rfl
  | _ => rfl

theorem move_modify (φ : Move) (e : Expr) (modifiers : Modifiers) (last : Span) :
    (e.modify modifiers last).move φ = (e.move φ).modify modifiers (φ.map last) := by
  cases e with
  | aggregate _ param => cases param <;> rfl
  | _ => simp [move, modify, Selector.move, φ.map_cover]

end Expr

namespace Parser

open ParseError (Cause Context Expectation Role)
open Grammar (front? eat?_eq eatWord?_eq either? choice? cardinality?_eq matchingSide?_eq groupingSide?_eq
  instantWord_eq)

def Fewer.move (φ : Move) {ts : List Token} (rest : Fewer ts) : Fewer (ts.map (Token.move φ)) :=
  ⟨rest.1.map (Token.move φ), by simpa using rest.2⟩

def AtMost.move (φ : Move) {ts : List Token} (rest : AtMost ts) : AtMost (ts.map (Token.move φ)) :=
  ⟨rest.1.map (Token.move φ), by simpa using rest.2⟩

-- Errors have places too, so a reader that fails on moved tokens has to fail with a moved error.
/-- A value changed by `change`, or an error at another place. -/
def moved {α β : Type} (φ : Move) (change : α → β) : Except ParseError α → Except ParseError β
  | .ok a => .ok (change a)
  | .error e => .error (e.move φ)

theorem bind_moved {α α' β β' : Type} {φ : Move} {g : α → α'} {h : β → β'}
    {x : Except ParseError α} {x' : Except ParseError α'} {f : α → Except ParseError β}
    {f' : α' → Except ParseError β'} (first : x' = moved φ g x)
    (later : ∀ a, f' (g a) = moved φ h (f a)) :
    x' >>= f' = moved φ h (x >>= f) := by
  subst first
  cases x with
  | error e => rfl
  | ok a => exact later a

theorem ite_moved {α β : Type} {φ : Move} {change : α → β} {c : Prop} [Decidable c]
    {x y : Except ParseError α} {x' y' : Except ParseError β} (yes : x' = moved φ change x)
    (no : y' = moved φ change y) : (if c then x' else y') = moved φ change (if c then x else y) := by
  split
  · exact yes
  · exact no

/-! Single tokens. -/

theorem front?_move (φ : Move) {test : Token → Bool} (blind : ∀ t : Token, test (t.move φ) = test t)
    (ts : List Token) :
    front? test (ts.map (Token.move φ)) =
      (front? test ts).map (Prod.map (Token.move φ) (Fewer.move φ)) := by
  cases ts with
  | nil => rfl
  | cons t rest =>
    change (if test (t.move φ) then _ else _) = Option.map _ (if test t then _ else _)
    rw [blind]
    split <;> rfl

theorem eat?_move (φ : Move) (kind : Token.Kind) (ts : List Token) :
    eat? kind (ts.map (Token.move φ)) =
      (eat? kind ts).map (Prod.map (Token.move φ) (Fewer.move φ)) := by
  rw [eat?_eq, eat?_eq, front?_move φ fun _ => rfl]

theorem isWord_move (φ : Move) (word : String) (t : Token) :
    isWord word (t.move φ) = isWord word t := rfl

theorem choice?_move {α : Type} (φ : Move) (first second : String × α) (ts : List Token) :
    choice? first second (ts.map (Token.move φ)) =
      (choice? first second ts).map (Prod.map (Prod.map id (Token.move φ)) (Fewer.move φ)) := by
  cases ts with
  | nil => rfl
  | cons t rest =>
    change Option.map _ (either? first second t) = Option.map _ (Option.map _ (either? first second t))
    cases either? first second t <;> rfl

theorem eatWord?_move (φ : Move) (word : String) (ts : List Token) :
    eatWord? word (ts.map (Token.move φ)) =
      (eatWord? word ts).map (Prod.map (Token.move φ) (Fewer.move φ)) := by
  rw [eatWord?_eq, eatWord?_eq, front?_move φ (isWord_move φ word)]

theorem expect_move (φ : Move) (eof : Token) (kind : Token.Kind) (context : Context)
    (ts : List Token) :
    expect (eof.move φ) kind context (ts.map (Token.move φ)) =
      moved φ (Prod.map (Token.move φ) (Fewer.move φ)) (expect eof kind context ts) := by
  cases ts with
  | nil => rfl
  | cons t rest =>
    change (if t.kind = kind then _ else _) = moved φ _ (if t.kind = kind then _ else _)
    split <;> rfl

/-! Lists. -/

/-- A list whose items and whose rest are read alike is read alike. -/
theorem listReads_move {α β : Type} (φ : Move) {change : α → β} {eof : Token} {close : Token.Kind}
    {context : Context} {item : (ts : List Token) → Reads α ts} {item' : (ts : List Token) → Reads β ts}
    {more : (ts : List Token) → Reads (List α × Token) ts}
    {more' : (ts : List Token) → Reads (List β × Token) ts} {ts : List Token}
    (first : item' (ts.map (Token.move φ)) = moved φ (Prod.map change (Fewer.move φ)) (item ts))
    (later : ∀ r₂ : List Token, r₂.length < ts.length → more' (r₂.map (Token.move φ)) =
      moved φ (Prod.map (Prod.map (List.map change) (Token.move φ)) (Fewer.move φ)) (more r₂)) :
    listReads (eof.move φ) item' close context more' (ts.map (Token.move φ)) =
      moved φ (Prod.map (Prod.map (List.map change) (Token.move φ)) (Fewer.move φ))
        (listReads eof item close context more ts) := by
  rw [listReads, listReads, eat?_move]
  cases eat? close ts with
  | some found => rfl
  | none =>
    refine bind_moved first ?_
    rintro ⟨a, r₁, shorter₁⟩
    simp only [Prod.map, Fewer.move, eat?_move]
    cases eat? .comma r₁ with
    | some found =>
      obtain ⟨comma, r₂, shorter₂⟩ := found
      exact bind_moved (later r₂ (fewer_trans shorter₁ shorter₂)) fun _ => rfl
    | none => exact bind_moved (expect_move φ eof _ _ r₁) fun _ => rfl

/-! Clauses without expressions inside. -/

theorem label_move (φ : Move) (eof : Token) (context : Context) (ts : List Token) :
    label (eof.move φ) context (ts.map (Token.move φ)) =
      moved φ (Prod.map id (Fewer.move φ)) (label eof context ts) :=
  bind_moved (expect_move φ eof _ _ ts) fun _ => rfl

theorem labels_move (φ : Move) (eof : Token) (context : Context) (ts : List Token) :
    labels (eof.move φ) context (ts.map (Token.move φ)) =
      moved φ (Prod.map (Prod.map id (Token.move φ)) (Fewer.move φ)) (labels eof context ts) := by
  rw [labels_eq, labels_eq, ← List.map_id_fun]
  exact listReads_move φ (label_move φ eof context ts) fun r₂ _ => by
    rw [List.map_id_fun]
    exact labels_move φ eof context r₂
  termination_by ts.length

theorem labelList_move (φ : Move) (eof : Token) (context : Context) (ts : List Token) :
    labelList (eof.move φ) context (ts.map (Token.move φ)) =
      moved φ (Prod.map (Prod.map id (Token.move φ)) (Fewer.move φ)) (labelList eof context ts) := by
  refine bind_moved (expect_move φ eof _ _ ts) ?_
  rintro ⟨opening, r₁, shorter₁⟩
  exact bind_moved (labels_move φ eof context r₁) fun _ => rfl

theorem included_move (φ : Move) (eof : Token) (ts : List Token) :
    included (eof.move φ) (ts.map (Token.move φ)) =
      moved φ (Prod.map id (AtMost.move φ)) (included eof ts) := by
  rw [included, included, eat?_move]
  cases eat? .leftParen ts with
  | none => rfl
  | some found => exact bind_moved (labelList_move φ eof _ ts) fun _ => rfl

theorem cardinality?_move (φ : Move) (ts : List Token) :
    cardinality? (ts.map (Token.move φ)) =
      (cardinality? ts).map (Prod.map (Prod.map id (Token.move φ)) (Fewer.move φ)) := by
  rw [cardinality?_eq, cardinality?_eq, choice?_move]

theorem matchingSide?_move (φ : Move) (ts : List Token) :
    matchingSide? (ts.map (Token.move φ)) = (matchingSide? ts).map (Prod.map id (Fewer.move φ)) := by
  rw [matchingSide?_eq, matchingSide?_eq, choice?_move, Option.map_map, Option.map_map]
  rfl

theorem vectorMatching_move (φ : Move) (eof : Token) (op : BinaryOp) (ts : List Token) :
    vectorMatching (eof.move φ) op (ts.map (Token.move φ)) =
      moved φ (Prod.map id (AtMost.move φ)) (vectorMatching eof op ts) := by
  rw [vectorMatching, vectorMatching, matchingSide?_move]
  cases matchingSide? ts with
  | none => rfl
  | some found =>
    obtain ⟨on, r₁, shorter₁⟩ := found
    refine bind_moved (labelList_move φ eof _ r₁) ?_
    rintro ⟨⟨labels, close⟩, r₂, shorter₂⟩
    simp only [Prod.map, Fewer.move, cardinality?_move]
    cases cardinality? r₂ with
    | none => rfl
    | some found =>
      obtain ⟨⟨card, t⟩, r₃, shorter₃⟩ := found
      simp only [Option.map_some, Prod.map]
      cases op.isSetOperator with
      | true => rfl
      | false => exact bind_moved (included_move φ eof r₃) fun _ => rfl

theorem groupingSide?_move (φ : Move) (ts : List Token) :
    groupingSide? (ts.map (Token.move φ)) = (groupingSide? ts).map (Prod.map id (Fewer.move φ)) := by
  rw [groupingSide?_eq, groupingSide?_eq, choice?_move, Option.map_map, Option.map_map]
  rfl

theorem grouping?_move (φ : Move) (eof : Token) (ts : List Token) :
    grouping? (eof.move φ) (ts.map (Token.move φ)) =
      moved φ (Prod.map (Option.map (Prod.map id (Token.move φ))) (AtMost.move φ))
        (grouping? eof ts) := by
  rw [grouping?, grouping?, groupingSide?_move]
  cases groupingSide? ts with
  | none => rfl
  | some found =>
    obtain ⟨without, r₁, shorter₁⟩ := found
    exact bind_moved (labelList_move φ eof _ r₁) fun _ => rfl

theorem duration_move (φ : Move) (eof : Token) (context : Context) (ts : List Token) :
    duration (eof.move φ) context (ts.map (Token.move φ)) =
      moved φ (Prod.map (Prod.map id (Token.move φ)) (Fewer.move φ)) (duration eof context ts) := by
  refine bind_moved (expect_move φ eof _ _ ts) ?_
  rintro ⟨t, rest⟩
  simp only [Prod.map, Token.move_text]
  cases Literal.Duration.read t.text <;> rfl

theorem number_move (φ : Move) (t : Token) : number (t.move φ) = moved φ id (number t) := by
  rw [number, number, Token.move_text]
  cases numberValue? t.text <;> rfl

theorem string_move (φ : Move) (t : Token) : string (t.move φ) = moved φ id (string t) := by
  rw [string, string, Token.move_text]
  cases Literal.Quoted.read t.text <;> rfl

theorem minus_move (φ : Move) (ts : List Token) :
    minus (ts.map (Token.move φ)) = Prod.map id (AtMost.move φ) (minus ts) := by
  rw [minus, minus, eat?_move]
  cases eat? .sub ts <;> rfl

/-! What may follow a primary expression. -/

theorem window_move (φ : Move) (eof bracket : Token) (e : Expr) (ts : List Token) :
    window (eof.move φ) (bracket.move φ) (e.move φ) (ts.map (Token.move φ)) =
      moved φ (Prod.map (Expr.move φ) (Fewer.move φ)) (window eof bracket e ts) := by
  refine bind_moved (duration_move φ eof _ ts) ?_
  rintro ⟨⟨ms, length⟩, r₁, shorter₁⟩
  simp only [Prod.map, Fewer.move, eat?_move]
  cases eat? .colon r₁ with
  | some found =>
    obtain ⟨colon, r₂, shorter₂⟩ := found
    simp only [Option.map_some, Prod.map, Fewer.move, eat?_move]
    refine bind_moved (g := Prod.map id (AtMost.move φ)) ?_ ?_
    · cases eat? .duration r₂ with
      | some found => exact bind_moved (duration_move φ eof _ r₂) fun _ => rfl
      | none => rfl
    · rintro ⟨step, r₃, shorter₃⟩
      refine bind_moved (expect_move φ eof _ _ r₃) ?_
      rintro ⟨close, r₄, shorter₄⟩
      simp only [Prod.map, Fewer.move, Expr.move_valueType, Expr.move_span, Token.move_span,
        ← φ.map_cover]
      split <;> rfl
  | none =>
    -- Without a colon the node in front decides; only a selector takes a range.
    refine bind_moved (expect_move φ eof _ _ r₁) ?_
    rintro ⟨close, r₂, shorter₂⟩
    have types := Expr.move_valueType φ e
    simp only [Prod.map, Fewer.move, Token.move_span, ← φ.map_cover]
    cases e with
    | vector selector =>
      have covered := φ.map_cover selector.span close.span
      exact congrArg (fun span => pure (Expr.matrix (selector.move φ) ms span, _)) covered.symm
    | aggregate _ param =>
      cases param <;>
        exact congrArg (fun type => fail (φ.map (bracket.span.cover close.span)) (.rangeType type)) types
    | _ =>
      exact congrArg (fun type => fail (φ.map (bracket.span.cover close.span)) (.rangeType type)) types

theorem offset_move (φ : Move) (eof keyword : Token) (e : Expr) (ts : List Token) :
    offset (eof.move φ) (keyword.move φ) (e.move φ) (ts.map (Token.move φ)) =
      moved φ (Prod.map (Expr.move φ) (Fewer.move φ)) (offset eof keyword e ts) := by
  rw [offset, offset, minus_move]
  obtain ⟨negative, r₁, shorter₁⟩ := minus ts
  refine bind_moved (duration_move φ eof _ r₁) ?_
  rintro ⟨⟨ms, t⟩, r₂, shorter₂⟩
  rw [Expr.move_modifiers?]
  cases e.modifiers? with
  | none => rfl
  | some modifiers =>
    simp only [Prod.map, id, Token.move_span, ← φ.map_cover, ← Expr.move_modify]
    split <;> rfl

theorem instantWord_move (φ : Move) (ts : List Token) :
    ((eatWord? "start" (ts.map (Token.move φ))).map (·, Instant.start) <|>
        (eatWord? "end" (ts.map (Token.move φ))).map (·, Instant.stop)) =
      ((eatWord? "start" ts).map (·, Instant.start) <|>
        (eatWord? "end" ts).map (·, Instant.stop)).map
        (Prod.map (Prod.map (Token.move φ) (Fewer.move φ)) id) := by
  rw [instantWord_eq, instantWord_eq, choice?_move, Option.map_map, Option.map_map]
  rfl

theorem instant_move (φ : Move) (eof : Token) (ts : List Token) :
    instant (eof.move φ) (ts.map (Token.move φ)) =
      moved φ (Prod.map (Prod.map id φ.map) (Fewer.move φ)) (instant eof ts) := by
  rw [instant, instant, instantWord_move]
  cases (eatWord? "start" ts).map (·, Instant.start) <|>
      (eatWord? "end" ts).map (·, Instant.stop) with
  | some found =>
    obtain ⟨⟨word, r₁, shorter₁⟩, value⟩ := found
    refine bind_moved (expect_move φ eof _ _ r₁) ?_
    rintro ⟨opening, r₂, shorter₂⟩
    exact bind_moved (expect_move φ eof _ _ r₂) fun _ => rfl
  | none =>
    rw [Option.map_none]
    dsimp only
    rw [minus_move]
    obtain ⟨negative, r₁, shorter₁⟩ := minus ts
    refine bind_moved (expect_move φ eof _ _ r₁) ?_
    rintro ⟨t, r₂, shorter₂⟩
    refine bind_moved (number_move φ t) ?_
    intro value
    exact ite_moved rfl rfl

theorem pinned_move (φ : Move) (eof sign : Token) (e : Expr) (ts : List Token) :
    pinned (eof.move φ) (sign.move φ) (e.move φ) (ts.map (Token.move φ)) =
      moved φ (Prod.map (Expr.move φ) (Fewer.move φ)) (pinned eof sign e ts) := by
  refine bind_moved (instant_move φ eof ts) ?_
  rintro ⟨⟨value, last⟩, rest⟩
  simp only [Prod.map, id, Expr.move_modifiers?]
  cases e.modifiers? with
  | none => rfl
  | some modifiers =>
    simp only [Token.move_span, ← φ.map_cover, ← Expr.move_modify]
    split <;> rfl

theorem suffixes_move (φ : Move) (eof : Token) (e : Expr) (ts : List Token) :
    suffixes (eof.move φ) (e.move φ) (ts.map (Token.move φ)) =
      moved φ (Prod.map (Expr.move φ) (AtMost.move φ)) (suffixes eof e ts) := by
  match ts with
  | [] =>
    change suffixes (eof.move φ) (e.move φ) [] = _
    rw [suffixes, suffixes]
    rfl
  | t :: rest =>
    change suffixes (eof.move φ) (e.move φ) (t.move φ :: rest.map (Token.move φ)) = _
    rw [suffixes, suffixes, isWord_move, Token.move_kind, window_move, offset_move, pinned_move]
    refine ite_moved ?_ (ite_moved ?_ (ite_moved ?_ rfl))
    all_goals
      refine bind_moved rfl ?_
      rintro ⟨e, r₁, shorter₁⟩
      exact bind_moved (suffixes_move φ eof e r₁) fun _ => rfl
  termination_by ts.length
  decreasing_by all_goals simp only [List.length_cons]; omega

/-! Selectors. -/

theorem matcher_move (φ : Move) (eof : Token) (ts : List Token) :
    matcher (eof.move φ) (ts.map (Token.move φ)) =
      moved φ (Prod.map (Matcher.move φ) (Fewer.move φ)) (matcher eof ts) := by
  refine bind_moved (expect_move φ eof _ _ ts) ?_
  rintro ⟨label, r₁, shorter₁⟩
  have front : (r₁.map (Token.move φ)).headD (eof.move φ) = (r₁.headD eof).move φ := by
    cases r₁ <;> rfl
  simp only [Prod.map, Fewer.move, front, Token.move_kind]
  cases MatchOp.ofKind? (r₁.headD eof).kind with
  | none => rfl
  | some op =>
    have readValue : expect (eof.move φ) .string .labelMatching (r₁.map (Token.move φ)).tail =
        moved φ (Prod.map (Token.move φ) fun rest => ⟨rest.1.map (Token.move φ), by simpa using rest.2⟩)
          (expect eof .string .labelMatching r₁.tail) := by
      cases r₁ with
      | nil => rfl
      | cons symbol rest => exact expect_move φ eof _ _ rest
    refine bind_moved readValue ?_
    rintro ⟨value, r₂, shorter₂⟩
    refine bind_moved (string_move φ value) ?_
    intro decoded
    simp only [Prod.map, Token.move_span, ← φ.map_cover]
    rfl

theorem matchers_move (φ : Move) (eof : Token) (ts : List Token) :
    matchers (eof.move φ) (ts.map (Token.move φ)) =
      moved φ (Prod.map (Prod.map (List.map (Matcher.move φ)) (Token.move φ)) (Fewer.move φ))
        (matchers eof ts) := by
  rw [matchers_eq, matchers_eq]
  exact listReads_move φ (matcher_move φ eof ts) fun r₂ _ => matchers_move φ eof r₂
  termination_by ts.length

section

variable [Pattern.Engine]

theorem acceptsEmpty_move (φ : Move) (m : Matcher) :
    acceptsEmpty (m.move φ) = moved φ id (acceptsEmpty m) := by
  unfold acceptsEmpty Matcher.move
  cases m.op with
  | equal | notEqual => rfl
  | regex | notRegex =>
    dsimp only
    split <;> rfl

theorem acceptances_move (φ : Move) (ms : List Matcher) :
    acceptances (ms.map (Matcher.move φ)) = moved φ id (acceptances ms) := by
  induction ms with
  | nil => rfl
  | cons m ms ih =>
    refine bind_moved (acceptsEmpty_move φ m) ?_
    intro first
    exact bind_moved ih fun _ => rfl

theorem finishSelector_move (φ : Move) (name : Option String) (found : List Matcher) (span : Span) :
    finishSelector name (found.map (Matcher.move φ)) (φ.map span) =
      moved φ (Expr.move φ) (finishSelector name found span) := by
  refine bind_moved (acceptances_move φ found) ?_
  intro accepted
  exact ite_moved rfl rfl

theorem braces_move (φ : Move) (eof : Token) (name : Option String) (named : List Matcher)
    (start : Span) (ts : List Token) :
    braces (eof.move φ) name (named.map (Matcher.move φ)) (φ.map start) (ts.map (Token.move φ)) =
      moved φ (Prod.map (Expr.move φ) (Fewer.move φ)) (braces eof name named start ts) := by
  refine bind_moved (matchers_move φ eof ts) ?_
  rintro ⟨⟨found, close⟩, rest⟩
  simp only [Prod.map, Token.move_span, ← φ.map_cover, ← List.map_append]
  exact bind_moved (finishSelector_move φ name _ _) fun _ => rfl

theorem namedSelector_move (φ : Move) (eof name : Token) (ts : List Token) :
    namedSelector (eof.move φ) (name.move φ) (ts.map (Token.move φ)) =
      moved φ (Prod.map (Expr.move φ) (AtMost.move φ)) (namedSelector eof name ts) := by
  rw [namedSelector, namedSelector, eat?_move]
  cases eat? .leftBrace ts with
  | none =>
    exact bind_moved (finishSelector_move φ (some name.text) [nameMatcher name] name.span) fun _ => rfl
  | some found =>
    obtain ⟨brace, r₁, shorter₁⟩ := found
    simp only [Option.map_some, Prod.map, Token.move_span, ← φ.map_cover]
    exact bind_moved (braces_move φ eof (some name.text) [nameMatcher name] _ r₁) fun _ => rfl

end

/-! Types. -/

theorem checkType_move (φ : Move) (e : Expr) (expected : ValueType) (role : Role) :
    checkType (e.move φ) expected role = moved φ id (checkType e expected role) := by
  rw [checkType, checkType, Expr.move_valueType, Expr.move_span]
  exact ite_moved rfl rfl

theorem checkArguments_move (φ : Move) (function : Signature) (index : Nat) (args : List Expr) :
    checkArguments function index (args.map (Expr.move φ)) =
      moved φ id (checkArguments function index args) := by
  induction args generalizing index with
  | nil => rfl
  | cons e rest ih =>
    rw [List.map_cons, checkArguments, checkArguments]
    cases function.argType? index with
    | some expected => exact bind_moved (checkType_move φ e _ _) fun _ => ih _
    | none => exact ih _

theorem buildCall_move (φ : Move) (function : Signature) (args : List Expr) (span : Span) :
    buildCall function (args.map (Expr.move φ)) (φ.map span) =
      moved φ (Expr.move φ) (buildCall function args span) := by
  rw [buildCall, buildCall, List.length_map]
  refine ite_moved (bind_moved (checkArguments_move φ function 0 args) fun _ => ?_) rfl
  rw [← Expr.moveAll_eq]
  rfl

theorem buildAggregate_move (φ : Move) (op : AggregateOp) (args : List Expr) (grouping : Grouping)
    (span : Span) :
    buildAggregate op (args.map (Expr.move φ)) grouping (φ.map span) =
      moved φ (Expr.move φ) (buildAggregate op args grouping span) := by
  unfold buildAggregate
  cases op.paramType? with
  | some expected =>
    match args with
    | [param, body] =>
      refine bind_moved (checkType_move φ param _ _) fun _ => ?_
      exact bind_moved (checkType_move φ body _ _) fun _ => rfl
    | [] | [_] => rfl
    | _ :: _ :: _ :: rest => simp [moved, fail, ParseError.move]
  | none =>
    match args with
    | [body] => exact bind_moved (checkType_move φ body _ _) fun _ => rfl
    | [] => rfl
    | _ :: _ :: rest => simp [moved, fail, ParseError.move]

theorem buildBinary_move (φ : Move) (op : BinaryOp) (opSpan : Span) (lhs rhs : Expr)
    (returnsBool : Bool) (matching : Option Matching) :
    buildBinary op (φ.map opSpan) (lhs.move φ) (rhs.move φ) returnsBool matching =
      moved φ (Expr.move φ) (buildBinary op opSpan lhs rhs returnsBool matching) := by
  simp only [buildBinary, Expr.move_valueType, Expr.move_span, ← φ.map_cover]
  exact ite_moved rfl (ite_moved rfl (ite_moved rfl (ite_moved rfl (ite_moved rfl (ite_moved rfl rfl)))))

theorem buildUnary_move (φ : Move) (op : UnaryOp) (sign : Span) (body : Expr) :
    buildUnary op (φ.map sign) (body.move φ) = moved φ (Expr.move φ) (buildUnary op sign body) := by
  have types := Expr.move_valueType φ body
  have spans := Expr.move_span φ body
  unfold buildUnary
  simp only [spans, ← φ.map_cover]
  cases body with
  | number => rfl
  | aggregate _ param => cases param <;> exact ite_moved rfl rfl
  | _ =>
    dsimp only [Expr.move] at types ⊢
    rw [types]
    exact ite_moved rfl rfl

/-! Expressions. -/

theorem boolFlag_move (φ : Move) (op : BinaryOp) (ts : List Token) :
    boolFlag op (ts.map (Token.move φ)) = Prod.map id (AtMost.move φ) (boolFlag op ts) := by
  rw [boolFlag, boolFlag, eatWord?_move]
  cases op.isComparison with
  | false => rfl
  | true => cases eatWord? "bool" ts <;> rfl

theorem startsAggregate_move (φ : Move) (ts : List Token) :
    startsAggregate (ts.map (Token.move φ)) = startsAggregate ts := by
  cases ts <;> rfl

variable [Pattern.Engine]

mutual

theorem expr_move (φ : Move) (eof : Token) (least : Nat) (ts : List Token) :
    expr (eof.move φ) least (ts.map (Token.move φ)) =
      moved φ (Prod.map (Expr.move φ) (Fewer.move φ)) (expr eof least ts) := by
  rw [expr, expr]
  refine bind_moved (operand_move φ eof ts) ?_
  rintro ⟨lhs, r₁, shorter₁⟩
  exact bind_moved (chain_move φ eof least lhs r₁) fun _ => rfl
  termination_by (ts.length, 3)

theorem chain_move (φ : Move) (eof : Token) (least : Nat) (lhs : Expr) (ts : List Token) :
    chain (eof.move φ) least (lhs.move φ) (ts.map (Token.move φ)) =
      moved φ (Prod.map (Expr.move φ) (AtMost.move φ)) (chain eof least lhs ts) := by
  match ts with
  | [] =>
    change chain (eof.move φ) least (lhs.move φ) [] = _
    rw [chain, chain]
    rfl
  | t :: rest =>
    change chain (eof.move φ) least (lhs.move φ) (t.move φ :: rest.map (Token.move φ)) = _
    rw [chain, chain, show BinaryOp.ofToken? (t.move φ) = BinaryOp.ofToken? t from rfl]
    cases BinaryOp.ofToken? t with
    | none => rfl
    | some op =>
      refine ite_moved rfl ?_
      rw [boolFlag_move]
      obtain ⟨returnsBool, r₁, shorter₁⟩ := boolFlag op rest
      refine bind_moved (vectorMatching_move φ eof op r₁) ?_
      rintro ⟨matching, r₂, shorter₂⟩
      refine bind_moved (expr_move φ eof op.rightLevel r₂) ?_
      rintro ⟨rhs, r₃, shorter₃⟩
      refine bind_moved (buildBinary_move φ op t.span lhs rhs returnsBool matching) ?_
      intro e
      exact bind_moved (chain_move φ eof least e r₃) fun _ => rfl
  termination_by (ts.length, 0)

theorem operand_move (φ : Move) (eof : Token) (ts : List Token) :
    operand (eof.move φ) (ts.map (Token.move φ)) =
      moved φ (Prod.map (Expr.move φ) (Fewer.move φ)) (operand eof ts) := by
  match ts with
  | [] =>
    change operand (eof.move φ) [] = _
    rw [operand, operand]
    rfl
  | t :: rest =>
    change operand (eof.move φ) (t.move φ :: rest.map (Token.move φ)) = _
    rw [operand, operand, Token.move_kind]
    cases UnaryOp.ofKind? t.kind with
    | some op =>
      refine bind_moved (expr_move φ eof _ rest) ?_
      rintro ⟨e, r₁, shorter₁⟩
      exact bind_moved (buildUnary_move φ op t.span e) fun _ => rfl
    | none =>
      refine bind_moved (primary_move φ eof t rest) ?_
      rintro ⟨e, r₁, shorter₁⟩
      exact bind_moved (suffixes_move φ eof e r₁) fun _ => rfl
  termination_by (ts.length, 2)

theorem primary_move (φ : Move) (eof t : Token) (ts : List Token) :
    primary (eof.move φ) (t.move φ) (ts.map (Token.move φ)) =
      moved φ (Prod.map (Expr.move φ) (AtMost.move φ)) (primary eof t ts) := by
  rw [primary, primary, Token.move_kind]
  split
  · exact bind_moved (number_move φ t) fun _ => rfl
  · exact bind_moved (string_move φ t) fun _ => rfl
  · refine bind_moved (expr_move φ eof 0 ts) ?_
    rintro ⟨e, r₁, shorter₁⟩
    refine bind_moved (expect_move φ eof _ _ r₁) ?_
    rintro ⟨close, r₂, shorter₂⟩
    simp only [Prod.map, Token.move_span, ← φ.map_cover]
    rfl
  · exact bind_moved (braces_move φ eof none [] t.span ts) fun _ => rfl
  · simp only [Token.move_text, startsAggregate_move, eat?_move]
    cases numberWord? (Text.lower t.text) with
    | some value => rfl
    | none =>
      dsimp only
      split
      · exact aggregation_move φ eof _ t ts
      · cases eat? .leftParen ts with
        | some found =>
          obtain ⟨opening, r₁, shorter₁⟩ := found
          dsimp only [Option.map_some, Prod.map, Fewer.move]
          cases Signature.lookup? t.text with
          | none => rfl
          | some function =>
            refine bind_moved (arguments_move φ eof _ r₁) ?_
            rintro ⟨⟨args, close⟩, r₂, shorter₂⟩
            simp only [Prod.map, Token.move_span, ← φ.map_cover]
            exact bind_moved (buildCall_move φ function args _) fun _ => rfl
        | none => exact ite_moved rfl (namedSelector_move φ eof t ts)
  · rfl
  termination_by (ts.length, 4)

theorem aggregation_move (φ : Move) (eof : Token) (op : AggregateOp) (t : Token) (ts : List Token) :
    aggregation (eof.move φ) op (t.move φ) (ts.map (Token.move φ)) =
      moved φ (Prod.map (Expr.move φ) (AtMost.move φ)) (aggregation eof op t ts) := by
  rw [aggregation, aggregation]
  refine bind_moved (grouping?_move φ eof ts) ?_
  rintro ⟨leading, r₁, shorter₁⟩
  refine bind_moved (expect_move φ eof _ _ r₁) ?_
  rintro ⟨opening, r₂, shorter₂⟩
  refine bind_moved (arguments_move φ eof _ r₂) ?_
  rintro ⟨⟨args, close⟩, r₃, shorter₃⟩
  cases leading with
  | some found =>
    obtain ⟨grouping, last⟩ := found
    simp only [Prod.map, Option.map_some, Token.move_span, ← φ.map_cover]
    exact bind_moved (buildAggregate_move φ op args grouping _) fun _ => rfl
  | none =>
    refine bind_moved (grouping?_move φ eof r₃) ?_
    rintro ⟨trailing, r₄, shorter₄⟩
    cases trailing with
    | none =>
      simp only [Prod.map, Option.map_none, Option.getD_none, Token.move_span, ← φ.map_cover]
      exact bind_moved (buildAggregate_move φ op args _ _) fun _ => rfl
    | some found =>
      obtain ⟨grouping, last⟩ := found
      simp only [Prod.map, Option.map_some, Option.getD_some, Token.move_span, ← φ.map_cover]
      exact bind_moved (buildAggregate_move φ op args grouping _) fun _ => rfl
  termination_by (ts.length, 3)

theorem arguments_move (φ : Move) (eof : Token) (context : Context) (ts : List Token) :
    arguments (eof.move φ) context (ts.map (Token.move φ)) =
      moved φ (Prod.map (Prod.map (List.map (Expr.move φ)) (Token.move φ)) (Fewer.move φ))
        (arguments eof context ts) := by
  rw [arguments_eq, arguments_eq]
  exact listReads_move φ (expr_move φ eof 0 ts) fun r₂ _ => arguments_move φ eof context r₂
  termination_by (ts.length, 4)

end

/-- Moving all tokens of a text moves the tree or the error that is read from them. -/
theorem whole_move (φ : Move) (eof : Token) (ts : List Token) :
    whole (eof.move φ) (ts.map (Token.move φ)) = moved φ (Expr.move φ) (whole eof ts) := by
  match ts with
  | [] => rfl
  | t :: rest =>
    refine bind_moved (expr_move φ eof 0 (t :: rest)) ?_
    rintro ⟨e, r₁, shorter₁⟩
    cases r₁ <;> rfl

end Parser

end QueryLint
