import QueryLint.Proofs.Cursor.Agrees

/-! Scans of clauses, suffixes and selectors do what the readers of lists answer. -/

set_option autoImplicit false

namespace QueryLint

namespace Cursor

open QueryLint.Parser (Reads MayRead eat? isWord fail unexpected label labels_eq matchers_eq)
open ParseError (Context)
open Grammar (choice?)

variable {eof : Token} {ts : List Token} {fuel : Nat} (ends : eof.kind = .eof)
include ends

/-! Clauses without expressions inside. -/

theorem label_agrees (context : Context) :
    Agrees eof (Token.text <$> expect .identifier context) ts (plain id (label eof context ts)) := by
  show Agrees eof (expect .identifier context >>= fun t => pure t.text) ts
    (plain id (Parser.expect eof .identifier context ts >>= fun answer => pure (answer.1.text, answer.2)))
  exact (expect_agrees .identifier context ends (by decide)).bind fun t rest _ => Agrees.pure _

theorem labelList_agrees (context : Context) (enough : ts.length ≤ fuel) :
    Agrees eof (labelList fuel context) ts (plain Prod.fst (Parser.labelList eof context ts)) := by
  refine (expect_agrees .leftParen context ends (by decide)).bind fun _ r₁ fewer₁ => ?_
  exact (listed_agrees ends (by decide) (fun ts _ => label_agrees ends context) (labels_eq eof context)
    (Nat.le_refl _) (by omega)).bind fun found rest _ => Agrees.pure _

theorem included_agrees (enough : ts.length ≤ fuel) :
    Agrees eof (included fuel) ts (plain id (Parser.included eof ts)) := by
  refine peek_agrees.next ?_
  rw [Parser.included]
  cases opens : eat? .leftParen ts with
  | none =>
    rw [if_neg (kind_ahead_ne ends (by decide) opens)]
    exact Agrees.pure _
  | some opening =>
    rw [if_pos (kind_ahead opens)]
    exact (labelList_agrees ends .grouping enough).last fun _ _ _ => rfl

theorem boolFlag_agrees (op : BinaryOp) :
    Agrees eof (boolFlag op) ts (.ok ((Parser.boolFlag op ts).1, (Parser.boolFlag op ts).2.1)) := by
  rw [boolFlag, Parser.boolFlag]
  cases op.isComparison with
  | false => exact Agrees.pure _
  | true =>
    show Agrees eof (eatWord "bool" >>= fun t => pure t.isSome) ts _
    rw [if_pos rfl]
    cases word : Parser.eatWord? "bool" ts with
    | some found =>
      exact (eatWord_some ends word).next (Agrees.pure _)
    | none => exact (eatWord_none ends word).next (Agrees.pure _)

theorem vectorMatching_agrees {op : BinaryOp} (enough : ts.length ≤ fuel) :
    Agrees eof (vectorMatching fuel op) ts (plain id (Parser.vectorMatching eof op ts)) := by
  rw [Parser.vectorMatching, Grammar.matchingSide?_eq]
  cases side : choice? ("on", true) ("ignoring", false) ts with
  | none => exact (eatEither_none ends side).next (Agrees.pure _)
  | some found =>
    obtain ⟨⟨on, word⟩, r₁, fewer₁⟩ := found
    refine (eatEither_some ends side).next ?_
    refine (labelList_agrees ends _ (by omega)).bindView fun labels r₂ fewer₂ => ?_
    obtain ⟨found, close⟩ := labels
    simp only [Grammar.cardinality?_eq]
    cases group : choice? ("group_left", Cardinality.manyToOne) ("group_right", .oneToMany) r₂ with
    | none => exact (eatEither_none ends group).next (Agrees.pure _)
    | some grouped =>
      obtain ⟨⟨card, t⟩, r₃, fewer₃⟩ := grouped
      refine (eatEither_some ends group).next ?_
      dsimp only
      cases isSet : op.isSetOperator
      · exact (included_agrees ends (by omega)).bind fun others rest _ => Agrees.pure _
      · exact Agrees.refuse _

theorem grouping_agrees (enough : ts.length ≤ fuel) :
    Agrees eof (grouping fuel) ts (plain (Option.map Prod.fst) (Parser.grouping? eof ts)) := by
  rw [Parser.grouping?, Grammar.groupingSide?_eq]
  cases side : choice? ("by", false) ("without", true) ts with
  | none => exact (eatEither_none ends side).next (Agrees.pure _)
  | some found =>
    obtain ⟨⟨without, word⟩, r₁, fewer₁⟩ := found
    refine (eatEither_some ends side).next ?_
    exact (labelList_agrees ends _ (by omega)).bindView fun found rest _ => Agrees.pure _

theorem duration_agrees (context : Context) :
    Agrees eof (duration context) ts (plain id (Parser.duration eof context ts)) := by
  refine (expect_agrees .duration context ends (by decide)).bind fun t rest _ => ?_
  cases read : Literal.Duration.read t.text with
  | ok ms =>
    simp only [read]
    exact Agrees.pure _
  | error e =>
    simp only [read]
    exact Agrees.refuse _

theorem minus_agrees : Agrees eof minus ts (.ok ((Parser.minus ts).1, (Parser.minus ts).2.1)) := by
  show Agrees eof (eat .sub >>= fun t => pure t.isSome) ts _
  rw [Parser.minus]
  cases sign : eat? .sub ts with
  | some found => exact (eat_some ends sign).next (Agrees.pure _)
  | none => exact (eat_none ends (by decide) sign).next (Agrees.pure _)

/-! What may follow a primary expression. -/

theorem window_agrees (e : Expr) (bracket : Token) :
    Agrees eof (window e) (bracket :: ts) (plain id (Parser.window eof bracket e ts)) := by
  refine (advance_agrees ends).next ?_
  refine (duration_agrees ends .range).bind fun (ms, last) r₁ _ => ?_
  dsimp only
  cases colon : eat? .colon r₁ with
  | some found =>
    obtain ⟨t, r₂, fewer₂⟩ := found
    refine (eat_some ends colon).next (Agrees.bind ?_ fun step r₃ _ => ?_)
    · refine peek_agrees.next ?_
      cases written : eat? .duration r₂ with
      | some found =>
        rw [if_pos (kind_ahead written)]
        exact ((duration_agrees ends .subqueryStep).map _).last fun _ _ _ => rfl
      | none =>
        rw [if_neg (kind_ahead_ne ends (by decide) written)]
        exact Agrees.pure _
    · refine (expect_agrees .rightBracket .subquery ends (by decide)).bind fun close rest _ => ?_
      by_cases notVector : e.valueType ≠ .vector
      · rw [if_pos notVector, if_pos notVector]
        exact Agrees.refuse _
      · rw [if_neg notVector, if_neg notVector]
        exact Agrees.pure _
  | none =>
    refine (eat_none ends (by decide) colon).next ?_
    refine (expect_agrees .rightBracket .rangeSelector ends (by decide)).bind fun close rest _ => ?_
    cases e <;> first | exact Agrees.pure _ | exact Agrees.refuse _

theorem offset_agrees (e : Expr) (keyword : Token) :
    Agrees eof (offset e) (keyword :: ts) (plain id (Parser.offset eof keyword e ts)) := by
  refine (advance_agrees ends).next ((minus_agrees ends).next ?_)
  refine (duration_agrees ends .offset).bind fun (ms, t) rest _ => ?_
  dsimp only
  cases e.modifiers? with
  | none => exact Agrees.refuse _
  | some modifiers =>
    dsimp only
    cases modifiers.offset with
    | none => exact Agrees.pure _
    | some _ => exact Agrees.refuse _

theorem instant_agrees : Agrees eof instant ts (plain id (Parser.instant eof ts)) := by
  rw [Parser.instant, Grammar.instantWord_eq]
  cases word : choice? ("start", Instant.start) ("end", .stop) ts with
  | some found =>
    obtain ⟨⟨value, t⟩, r₁, fewer₁⟩ := found
    refine (eatEither_some ends word).next ?_
    refine (expect_agrees .leftParen .instant ends (by decide)).bind fun _ r₂ _ => ?_
    exact (expect_agrees .rightParen .instant ends (by decide)).bind fun close r₃ _ => Agrees.pure _
  | none =>
    refine (eatEither_none ends word).next ((minus_agrees ends).next ?_)
    obtain ⟨negative, r₁, atMost₁⟩ := Parser.minus ts
    refine (expect_agrees .number .instant ends (by decide)).bind fun t r₂ _ => ?_
    refine Agrees.build fun value => ?_
    dsimp only
    generalize (if negative then value.neg else value) = signed
    cases signed.isFinite
    · exact Agrees.refuse _
    · exact Agrees.pure _

theorem pinned_agrees (e : Expr) (sign : Token) :
    Agrees eof (pinned e) (sign :: ts) (plain id (Parser.pinned eof sign e ts)) := by
  refine (advance_agrees ends).next ?_
  refine (instant_agrees ends).bind fun (value, last) rest _ => ?_
  dsimp only
  cases e.modifiers? with
  | none => exact Agrees.refuse _
  | some modifiers =>
    dsimp only
    cases modifiers.instant with
    | none => exact Agrees.pure _
    | some _ => exact Agrees.refuse _

theorem suffixes_agrees (e : Expr) (enough : ts.length < fuel) :
    Agrees eof (loop suffixRound fuel e) ts (plain id (Parser.suffixes eof e ts)) := by
  -- One round reads one suffix; which one, its first token tells.
  suffices rounds : ∀ e ts, ts.length ≤ fuel → ∃ answer, Agrees eof (suffixRound e) ts answer ∧
      Round (fun e ts => plain id (Parser.suffixes eof e ts)) e ts answer from
    loop_agrees rounds e (Nat.le_of_lt enough) enough
  intro e ts _
  cases ts with
  | nil =>
    refine ⟨.ok (.inr e, []), peek_agrees.next ?_, .leaves (by rw [Parser.suffixes]; rfl)⟩
    simp only [List.headD_nil, ends, isWord_end ends]
    exact Agrees.pure _
  | cons t rest =>
    by_cases isWindow : t.kind = .leftBracket
    · refine ⟨plain .inl (Parser.window eof t e rest), peek_agrees.next ?_, round_of_continued ?_⟩
      · rw [List.headD_cons, if_pos isWindow]
        exact (window_agrees ends e t).map _
      · rw [Parser.suffixes, if_pos isWindow]
        rfl
    by_cases isOffset : isWord "offset" t
    · refine ⟨plain .inl (Parser.offset eof t e rest), peek_agrees.next ?_, round_of_continued ?_⟩
      · rw [List.headD_cons, if_neg isWindow, if_pos isOffset]
        exact (offset_agrees ends e t).map _
      · rw [Parser.suffixes, if_neg isWindow, if_pos isOffset]
        rfl
    by_cases isPinned : t.kind = .at
    · refine ⟨plain .inl (Parser.pinned eof t e rest), peek_agrees.next ?_, round_of_continued ?_⟩
      · rw [List.headD_cons, if_neg isWindow, if_neg isOffset, if_pos isPinned]
        exact (pinned_agrees ends e t).map _
      · rw [Parser.suffixes, if_neg isWindow, if_neg isOffset, if_pos isPinned]
        rfl
    · refine ⟨.ok (.inr e, t :: rest), peek_agrees.next ?_, .leaves ?_⟩
      · rw [List.headD_cons, if_neg isWindow, if_neg isOffset, if_neg isPinned]
        exact Agrees.pure _
      · rw [Parser.suffixes, if_neg isWindow, if_neg isOffset, if_neg isPinned]
        rfl

/-! Selectors. -/

theorem matcher_agrees : Agrees eof matcher ts (plain id (Parser.matcher eof ts)) := by
  refine (expect_agrees .identifier .labelMatching ends (by decide)).bind fun label r₁ _ => ?_
  refine (advance_agrees ends).next ?_
  dsimp only
  cases MatchOp.ofKind? (r₁.headD eof).kind with
  | none => exact Agrees.refuse _
  | some op =>
    refine (expect_agrees .string .labelMatching ends (by decide)).bind fun value r₂ _ => ?_
    exact Agrees.build fun decoded => Agrees.pure _

variable [Pattern.Engine]

theorem braces_agrees (name : Option String) (named : List Matcher) (start : Text.Span)
    (enough : ts.length < fuel) :
    Agrees eof (do
      let (found, close) ← listed fuel matcher .rightBrace .labelMatching
      build (Parser.finishSelector name (named ++ found) (start.cover close.span)))
      ts (plain id (Parser.braces eof name named start ts)) :=
  (listed_agrees ends (by decide) (fun ts _ => matcher_agrees ends) (matchers_eq eof)
    (Nat.le_refl _) enough).bind fun (found, close) rest left => Agrees.built left

theorem namedSelector_agrees (t : Token) (enough : ts.length < fuel) :
    Agrees eof (selector fuel (some t)) (t :: ts) (plain id (Parser.namedSelector eof t ts)) := by
  refine Agrees.watched (fun _ => Nat.lt_succ_of_le) ?_
  refine ((advance_agrees ends).next (Agrees.pure t.span)).next ?_
  rw [Parser.namedSelector]
  cases opens : eat? .leftBrace ts with
  | none => exact (eat_none ends (by decide) opens).next (Agrees.built _)
  | some found =>
    obtain ⟨brace, r₁, fewer₁⟩ := found
    refine (eat_some ends opens).next ?_
    exact (braces_agrees ends _ _ _ (by omega)).last fun _ _ _ => rfl

theorem bareSelector_agrees {t : Token} (opens : t.kind = .leftBrace) (enough : ts.length < fuel) :
    Agrees eof (selector fuel none) (t :: ts) (plain id (Parser.braces eof none [] t.span ts)) := by
  refine Agrees.watched (fun _ => Nat.lt_succ_of_lt) ?_
  have starts : Agrees eof (selectorStart none) (t :: ts) (.ok (t.span, t :: ts)) := by
    show Agrees eof (peek >>= fun t => pure t.span) _ _
    exact peek_agrees.next (Agrees.pure _)
  refine starts.next ?_
  refine Agrees.next (eatIf_ahead ts ends (by simpa using opens)) ?_
  dsimp only
  rw [Text.Span.cover_self]
  exact braces_agrees ends none [] t.span enough

end Cursor

end QueryLint
