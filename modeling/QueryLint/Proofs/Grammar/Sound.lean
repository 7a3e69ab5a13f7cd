import QueryLint.Proofs.Grammar
import QueryLint.Proofs.Grammar.Lists

/-! What the readers accept, stated against the grammar.

A reader that succeeds has taken tokens from the front, and these are derived as the value it
returned, with the first token it left as lookahead. Readers of a single token are first brought
into one form, whose success and failure are described once.
-/

set_option autoImplicit false

namespace QueryLint

/-- Items without a fault are their tokens. -/
theorem Token.items_eq_map {items : List Token.Item} (clean : items.filterMap Token.Item.fault? = []) :
    items = (items.filterMap Token.Item.token?).map .token := by
  induction items with
  | nil => rfl
  | cons item items ih =>
    cases item with
    | token t => simpa [Token.Item.token?, Token.Item.fault?] using ih (by simpa [Token.Item.fault?] using clean)
    | fault cause span => simp [Token.Item.fault?] at clean

@[simp] theorem Token.filterMap_fault?_map (tokens : List Token) :
    (tokens.map Token.Item.token).filterMap Token.Item.fault? = [] := by
  simp [List.filterMap_map, Function.comp_def, Token.Item.fault?]

@[simp] theorem Token.filterMap_token?_map (tokens : List Token) :
    (tokens.map Token.Item.token).filterMap Token.Item.token? = tokens := by
  simp [List.filterMap_map, Function.comp_def, Token.Item.token?]

theorem Token.tokenize_eq_ok {source : String} {tokens : List Token}
    (clean : items source = tokens.map .token) :
    tokenize source = .ok (tokens ++ [eof source]) := by
  rw [tokenize, clean, filterMap_fault?_map, filterMap_token?_map]

theorem Token.exists_of_tokenize {source : String} {tokens : List Token}
    (cut : tokenize source = .ok tokens) :
    ∃ ts : List Token, items source = ts.map .token ∧ tokens = ts ++ [eof source] := by
  unfold tokenize at cut
  split at cut
  · next noFault =>
    cases cut
    exact ⟨_, items_eq_map noFault, rfl⟩
  · cases cut

theorem Token.items_of_tokenize {source : String} {tokens : List Token}
    (cut : tokenize source = .ok (tokens ++ [eof source])) : items source = tokens.map .token := by
  unfold tokenize at cut
  split at cut
  · next noFault =>
    rw [← List.append_cancel_right (Except.ok.inj cut)]
    exact items_eq_map noFault
  · cases cut

namespace Grammar

open QueryLint.Parser
open ParseError (Context)

theorem bind_ok {ε α β : Type} {x : Except ε α} {f : α → Except ε β} {b : β}
    (answer : x >>= f = .ok b) : ∃ a, x = .ok a ∧ f a = .ok b := by
  cases x with
  | error e => cases answer
  | ok a => exact ⟨a, rfl, answer⟩

theorem exists_of_isOk {ε α : Type} {x : Except ε α} (isOk : x.isOk = true) : ∃ a, x = .ok a := by
  cases x with
  | error e => cases isOk
  | ok a => exact ⟨a, rfl⟩

theorem toOption_eq_some {ε α : Type} {x : Except ε α} {a : α} : x.toOption = some a ↔ x = .ok a := by
  cases x <;> simp [Except.toOption]

/-! Single tokens. -/

theorem length_rest_lt (t : Token) (rest : List Token) : rest.length < (t :: rest).length := by
  simp

/-- Takes the token in front if it has a property. -/
def front? (test : Token → Bool) (ts : List Token) : Option (Token × Fewer ts) :=
  match ts with
  | [] => none
  | t :: rest => if test t then some (t, ⟨rest, length_rest_lt t rest⟩) else none

theorem eat?_eq (kind : Token.Kind) (ts : List Token) : eat? kind ts = front? (isKind kind) ts := by
  cases ts with
  | nil => rfl
  | cons t rest => simp [eat?, front?, isKind]

theorem eatWord?_eq (word : String) (ts : List Token) :
    eatWord? word ts = front? (isWord word) ts := by
  cases ts <;> rfl

theorem front?_some {test : Token → Bool} {ts : List Token} {t : Token} {rest : Fewer ts}
    (answer : front? test ts = some (t, rest)) : ts = t :: rest.1 ∧ test t = true := by
  cases ts with
  | nil => cases answer
  | cons head tail =>
    rw [front?] at answer
    split at answer
    · next passes =>
      cases answer
      exact ⟨rfl, passes⟩
    · cases answer

theorem front?_none {test : Token → Bool} {ts : List Token} (answer : front? test ts = none) :
    NotAhead test ts.head? := by
  cases ts with
  | nil => exact NotAhead.none _
  | cons head tail =>
    rw [front?] at answer
    split at answer
    · cases answer
    · next fails => simpa using fails

theorem eat?_some {kind : Token.Kind} {ts : List Token} {t : Token} {rest : Fewer ts}
    (answer : eat? kind ts = some (t, rest)) : ts = t :: rest.1 ∧ t.kind = kind := by
  rw [eat?_eq] at answer
  obtain ⟨split, same⟩ := front?_some answer
  exact ⟨split, isKind_iff.mp same⟩

theorem eat?_none {kind : Token.Kind} {ts : List Token} (answer : eat? kind ts = none) :
    NotAhead (isKind kind) ts.head? :=
  front?_none (eat?_eq kind ts ▸ answer)

theorem expect_ok {eof t : Token} {kind : Token.Kind} {context : Context} {ts : List Token}
    {rest : Fewer ts} (answer : expect eof kind context ts = .ok (t, rest)) :
    ts = t :: rest.1 ∧ t.kind = kind := by
  cases ts with
  | nil => cases answer
  | cons head tail =>
    rw [expect] at answer
    split at answer
    · next same =>
      cases answer
      exact ⟨rfl, same⟩
    · cases answer

/-- Takes the token in front if it is one of two words. -/
def choice? {α : Type} (first second : String × α) (ts : List Token) :
    Option ((α × Token) × Fewer ts) :=
  match ts with
  | [] => none
  | t :: rest => (either? first second t).map fun a => ((a, t), ⟨rest, length_rest_lt t rest⟩)

theorem choice?_some {α : Type} {first second : String × α} {ts : List Token} {a : α} {t : Token}
    {rest : Fewer ts} (answer : choice? first second ts = some ((a, t), rest)) :
    ts = t :: rest.1 ∧ either? first second t = some a := by
  cases ts with
  | nil => cases answer
  | cons head tail =>
    rw [choice?] at answer
    obtain ⟨value, found, same⟩ := Option.map_eq_some_iff.mp answer
    cases same
    exact ⟨rfl, found⟩

theorem choice?_none {α : Type} {first second : String × α} {ts : List Token}
    (answer : choice? first second ts = none) :
    NotAhead (fun t => (either? first second t).isSome) ts.head? := by
  cases ts with
  | nil => exact NotAhead.none _
  | cons head tail =>
    rw [choice?, Option.map_eq_none_iff] at answer
    simp [answer]

theorem cardinality?_eq (ts : List Token) :
    cardinality? ts = choice? ("group_left", .manyToOne) ("group_right", .oneToMany) ts := by
  cases ts with
  | nil => rfl
  | cons t rest =>
    simp only [cardinality?, eatWord?, choice?, either?]
    cases isWord "group_left" t <;> cases isWord "group_right" t <;> rfl

theorem matchingSide?_eq (ts : List Token) :
    matchingSide? ts =
      (choice? ("on", true) ("ignoring", false) ts).map fun ((a, _), rest) => (a, rest) := by
  cases ts with
  | nil => rfl
  | cons t rest =>
    simp only [matchingSide?, eatWord?, choice?, either?]
    cases isWord "on" t <;> cases isWord "ignoring" t <;> rfl

theorem groupingSide?_eq (ts : List Token) :
    groupingSide? ts =
      (choice? ("by", false) ("without", true) ts).map fun ((a, _), rest) => (a, rest) := by
  cases ts with
  | nil => rfl
  | cons t rest =>
    simp only [groupingSide?, eatWord?, choice?, either?]
    cases isWord "by" t <;> cases isWord "without" t <;> rfl

theorem instantWord_eq (ts : List Token) :
    ((eatWord? "start" ts).map (·, Instant.start) <|> (eatWord? "end" ts).map (·, Instant.stop)) =
      (choice? ("start", Instant.start) ("end", .stop) ts).map
        fun ((a, t), rest) => ((t, rest), a) := by
  cases ts with
  | nil => rfl
  | cons t rest =>
    simp only [eatWord?, choice?, either?]
    cases isWord "start" t <;> cases isWord "end" t <;> rfl

/-! Lists. -/

section

variable {α : Type} {eof : Token} {close : Token.Kind} {context : Context}
  {item : (ts : List Token) → Reads α ts} {more : (ts : List Token) → Reads (List α × Token) ts}

/-- How a list is read: it is over at once, or behind its only item, or goes on behind a comma. -/
inductive ReadsList (item : (ts : List Token) → Reads α ts) (close : Token.Kind)
    (more : (ts : List Token) → Reads (List α × Token) ts) (ts : List Token) :
    List α → Token → List Token → Prop
  | nil {t : Token} {rest : List Token} :
      ts = t :: rest → t.kind = close → ReadsList item close more ts [] t rest
  | last {a : α} {r₁ : Fewer ts} {t : Token} {rest : List Token} :
      item ts = .ok (a, r₁) → r₁.1 = t :: rest → t.kind = close → ReadsList item close more ts [a] t rest
  | more {a : α} {r₁ : Fewer ts} {comma t : Token} {r₂ rest : List Token} {others : List α} {r₃ : Fewer r₂} :
      item ts = .ok (a, r₁) → r₁.1 = comma :: r₂ → comma.kind = .comma → r₂.length < ts.length →
      more r₂ = .ok ((others, t), r₃) → r₃.1 = rest → ReadsList item close more ts (a :: others) t rest

theorem listReads_ok {ts : List Token} {found : List α} {t : Token} {rest : Fewer ts}
    (answer : listReads eof item close context more ts = .ok ((found, t), rest)) :
    ReadsList item close more ts found t rest.1 := by
  rw [listReads] at answer
  split at answer
  · next eaten =>
    cases answer
    obtain ⟨split, isClose⟩ := eat?_some eaten
    exact .nil split isClose
  · obtain ⟨⟨a, r₁, shorter₁⟩, readItem, answer⟩ := bind_ok answer
    simp only at answer
    split at answer
    · next comma r₂ shorter₂ eaten =>
      obtain ⟨⟨⟨others, t⟩, r₃, shorter₃⟩, readMore, answer⟩ := bind_ok answer
      cases answer
      obtain ⟨split, isComma⟩ := eat?_some eaten
      exact .more readItem split isComma (fewer_trans shorter₁ shorter₂) readMore rfl
    · obtain ⟨⟨t, r₂, shorter₂⟩, readClose, answer⟩ := bind_ok answer
      cases answer
      obtain ⟨split, isClose⟩ := expect_ok readClose
      exact .last readItem split isClose

/-- A list whose items are read as the grammar has them is one of the grammar. -/
theorem listed_sound {Item : List Token → α → Prop} {whole : (ts : List Token) → Reads (List α × Token) ts}
    (lists : ∀ ts, whole ts = listReads eof item close context whole ts)
    (items : ∀ {ts : List Token} {a : α} {rest : Fewer ts}, item ts = .ok (a, rest) →
      ∃ used, ts = used ++ rest.1 ∧ Item used a)
    {ts : List Token} {found : List α} {t : Token} {rest : Fewer ts}
    (answer : whole ts = .ok ((found, t), rest)) :
    ∃ used, ts = used ++ t :: rest.1 ∧ t.kind = close ∧ Listed Item used found := by
  rw [lists] at answer
  have read := listReads_ok answer
  generalize rest.1 = left at read ⊢
  cases read with
  | nil split isClose => exact ⟨[], split, isClose, .nil⟩
  | last readItem split isClose =>
    obtain ⟨used, split₁, isItem⟩ := items readItem
    exact ⟨used, by rw [split₁, split], isClose, .last isItem⟩
  | @more a r₁ comma t r₂ _ others r₃ readItem split isComma shorter₂ readMore same =>
    obtain ⟨used, split₁, isItem⟩ := items readItem
    obtain ⟨behind, split₂, isClose, listed⟩ := listed_sound lists items readMore
    refine ⟨used ++ comma :: behind, ?_, isClose, .more isItem isComma listed⟩
    rw [split₁, split, split₂, same, List.append_assoc, List.cons_append]
  termination_by ts.length

end

/-! Clauses without expressions inside. -/

theorem label_sound {eof : Token} {context : Context} {ts : List Token} {name : String} {rest : Fewer ts}
    (answer : label eof context ts = .ok (name, rest)) : ∃ used, ts = used ++ rest.1 ∧ Label used name := by
  rw [label] at answer
  obtain ⟨⟨t, r₁⟩, readName, answer⟩ := bind_ok answer
  obtain ⟨split, isName⟩ := expect_ok readName
  cases answer
  exact ⟨[t], split, .name isName⟩

theorem labels_sound {eof : Token} {context : Context} {ts : List Token} {found : List String}
    {close : Token} {rest : Fewer ts} (answer : labels eof context ts = .ok ((found, close), rest)) :
    ∃ used, ts = used ++ close :: rest.1 ∧ close.kind = .rightParen ∧ Listed Label used found :=
  listed_sound (labels_eq eof context) label_sound answer

theorem labelList_sound {eof : Token} {context : Context} {ts : List Token} {found : List String}
    {close : Token} {rest : Fewer ts}
    (answer : labelList eof context ts = .ok ((found, close), rest)) :
    ∃ used, ts = used ++ rest.1 ∧ LabelList used close found := by
  rw [labelList] at answer
  obtain ⟨⟨opening, r₁, shorter₁⟩, readOpening, answer⟩ := bind_ok answer
  obtain ⟨⟨⟨found', close'⟩, r₂, shorter₂⟩, readLabels, answer⟩ := bind_ok answer
  cases answer
  obtain ⟨split₁, isOpening⟩ := expect_ok readOpening
  obtain ⟨used, split₂, isClose, listed⟩ := labels_sound readLabels
  refine ⟨opening :: (used ++ [close]), ?_, .parens isOpening listed isClose⟩
  simp [split₁, split₂]

theorem included_sound {eof : Token} {ts : List Token} {found : List String} {rest : AtMost ts}
    (answer : included eof ts = .ok (found, rest)) :
    ∃ used, ts = used ++ rest.1 ∧ Included rest.1.head? used found := by
  rw [included] at answer
  split at answer
  · next eaten =>
    cases answer
    exact ⟨[], rfl, .absent (eat?_none eaten)⟩
  · obtain ⟨⟨⟨found', close⟩, r₁, shorter₁⟩, readList, answer⟩ := bind_ok answer
    cases answer
    obtain ⟨used, split, listed⟩ := labelList_sound readList
    exact ⟨used, split, .listed listed⟩

theorem vectorMatching_sound {eof : Token} {op : BinaryOp} {ts : List Token}
    {matching : Option Matching} {rest : AtMost ts}
    (answer : vectorMatching eof op ts = .ok (matching, rest)) :
    ∃ used, ts = used ++ rest.1 ∧ MatchingClause op rest.1.head? used matching := by
  rw [vectorMatching, matchingSide?_eq] at answer
  cases side : choice? ("on", true) ("ignoring", false) ts with
  | none =>
    rw [side] at answer
    cases answer
    exact ⟨[], rfl, .absent (choice?_none side)⟩
  | some found =>
    obtain ⟨⟨on, word⟩, r₁, shorter₁⟩ := found
    rw [side] at answer
    obtain ⟨split₁, isWord⟩ := choice?_some side
    obtain ⟨⟨⟨found, close⟩, r₂, shorter₂⟩, readList, answer⟩ := bind_ok answer
    obtain ⟨used, split₂, listed⟩ := labelList_sound readList
    simp only [cardinality?_eq] at split₁ split₂ answer
    split at answer
    · next alone =>
      cases answer
      exact ⟨word :: used, by simp [split₁, split₂], .plain isWord listed (choice?_none alone)⟩
    · next card t r₃ shorter₃ grouped =>
      split at answer
      · cases answer
      · next notSet =>
        obtain ⟨⟨others, r₄, shorter₄⟩, readOthers, answer⟩ := bind_ok answer
        cases answer
        obtain ⟨split₃, isSide⟩ := choice?_some grouped
        obtain ⟨more, split₄, including⟩ := included_sound readOthers
        refine ⟨word :: (used ++ t :: more), ?_,
          .grouped isWord listed isSide (by simpa using notSet) including⟩
        simp [split₁, split₂, split₃, split₄]

theorem grouping?_sound {eof : Token} {ts : List Token} {found : Option (Grouping × Token)}
    {rest : AtMost ts} (answer : grouping? eof ts = .ok (found, rest)) :
    (found = none ∧ ts = rest.1 ∧ NotAhead (fun t => (groupingWord? t).isSome) rest.1.head?) ∨
      ∃ grouping close used, found = some (grouping, close) ∧ ts = used ++ rest.1 ∧
        GroupingClause used close grouping := by
  rw [grouping?, groupingSide?_eq] at answer
  cases side : choice? ("by", false) ("without", true) ts with
  | none =>
    rw [side] at answer
    cases answer
    exact .inl ⟨rfl, rfl, choice?_none side⟩
  | some found =>
    obtain ⟨⟨without, word⟩, r₁, shorter₁⟩ := found
    rw [side] at answer
    obtain ⟨split₁, isWord⟩ := choice?_some side
    obtain ⟨⟨⟨found, close⟩, r₂, shorter₂⟩, readList, answer⟩ := bind_ok answer
    cases answer
    obtain ⟨used, split₂, listed⟩ := labelList_sound readList
    refine .inr ⟨⟨without, found⟩, close, word :: used, rfl, ?_, .labels isWord listed⟩
    simp only at split₁ split₂
    simp [split₁, split₂]

/-! Ranges and modifiers. -/

theorem duration_sound {eof : Token} {context : Context} {ts : List Token} {ms : Nat} {t : Token}
    {rest : Fewer ts} (answer : duration eof context ts = .ok ((ms, t), rest)) :
    ts = t :: rest.1 ∧ IsDuration t ms := by
  rw [duration] at answer
  obtain ⟨⟨t', r₁⟩, readToken, answer⟩ := bind_ok answer
  obtain ⟨split, kind⟩ := expect_ok readToken
  simp only at answer
  split at answer
  · next read =>
    cases answer
    exact ⟨split, kind, read⟩
  · cases answer

theorem minus_sound {ts : List Token} {negative : Bool} {rest : AtMost ts}
    (answer : minus ts = (negative, rest)) : ∃ sign, ts = sign ++ rest.1 ∧ Sign sign negative := by
  rw [minus] at answer
  split at answer
  · next t r₁ shorter₁ eaten =>
    cases answer
    obtain ⟨split, kind⟩ := eat?_some eaten
    exact ⟨[t], split, .minus kind⟩
  · cases answer
    exact ⟨[], rfl, .absent⟩

theorem window_sound {eof bracket : Token} {e e' : Expr} {ts : List Token} {rest : Fewer ts}
    (isBracket : bracket.kind = .leftBracket) (answer : window eof bracket e ts = .ok (e', rest)) :
    ∃ used, ts = used ++ rest.1 ∧ Suffix e (bracket :: used) e' := by
  rw [window] at answer
  obtain ⟨⟨⟨ms, length⟩, r₁, shorter₁⟩, readLength, answer⟩ := bind_ok answer
  obtain ⟨split₁, isLength⟩ := duration_sound readLength
  simp only at split₁ answer
  split at answer
  · next colon r₂ shorter₂ eaten =>
    obtain ⟨split₂, isColon⟩ := eat?_some eaten
    obtain ⟨⟨step, r₃, shorter₃⟩, readStep, answer⟩ := bind_ok answer
    -- The step may be missing, and then no token was taken.
    have stepped : ∃ used, r₂ = used ++ r₃ ∧ Step used step := by
      split at readStep
      · obtain ⟨⟨⟨ms', t⟩, r, shorter⟩, readMs, readStep⟩ := bind_ok readStep
        cases readStep
        obtain ⟨split, isStep⟩ := duration_sound readMs
        exact ⟨[t], split, .given isStep⟩
      · cases readStep
        exact ⟨[], rfl, .absent⟩
    obtain ⟨used, split₃, isStep⟩ := stepped
    obtain ⟨⟨close, r₄, shorter₄⟩, readClose, answer⟩ := bind_ok answer
    obtain ⟨split₄, isClose⟩ := expect_ok readClose
    simp only at split₂ split₄ answer
    split at answer
    · cases answer
    · next isVector =>
      cases answer
      refine ⟨length :: colon :: (used ++ [close]), ?_,
        .subquery isBracket isLength isColon isStep isClose (by simpa using isVector)⟩
      simp [split₁, split₂, split₃, split₄]
  · obtain ⟨⟨close, r₂, shorter₂⟩, readClose, answer⟩ := bind_ok answer
    obtain ⟨split₂, isClose⟩ := expect_ok readClose
    cases e with
    | vector selector =>
      cases answer
      exact ⟨[length, close], by simp [split₁, split₂], .range isBracket isLength isClose⟩
    | _ => cases answer

theorem offset_sound {eof word : Token} {e e' : Expr} {ts : List Token} {rest : Fewer ts}
    (isOffset : isWord "offset" word = true) (answer : offset eof word e ts = .ok (e', rest)) :
    ∃ used, ts = used ++ rest.1 ∧ Suffix e (word :: used) e' := by
  rw [offset] at answer
  obtain ⟨⟨negative, r₁, shorter₁⟩, taken⟩ : ∃ front, minus ts = front := ⟨_, rfl⟩
  rw [taken] at answer
  obtain ⟨sign, split₁, isSign⟩ := minus_sound taken
  obtain ⟨⟨⟨ms, length⟩, r₂, shorter₂⟩, readLength, answer⟩ := bind_ok answer
  obtain ⟨split₂, isLength⟩ := duration_sound readLength
  simp only at answer
  split at answer
  · cases answer
  · next modifiers found =>
    split at answer
    · cases answer
    · next unset =>
      cases answer
      refine ⟨sign ++ [length], ?_, .offset isOffset isSign isLength found (by simpa using unset)⟩
      simp only at split₁ split₂
      simp [split₁, split₂]

theorem instant_sound {eof : Token} {ts : List Token} {value : Instant} {last : Text.Span}
    {rest : Fewer ts} (answer : instant eof ts = .ok ((value, last), rest)) :
    ∃ used t, ts = used ++ rest.1 ∧ t.span = last ∧ InstantClause used t value := by
  rw [instant, instantWord_eq] at answer
  cases named : choice? ("start", Instant.start) ("end", .stop) ts with
  | some found =>
    obtain ⟨⟨value, name⟩, r₁, shorter₁⟩ := found
    rw [named] at answer
    obtain ⟨split₁, isName⟩ := choice?_some named
    obtain ⟨⟨opening, r₂, shorter₂⟩, readOpening, answer⟩ := bind_ok answer
    obtain ⟨⟨close, r₃, shorter₃⟩, readClose, answer⟩ := bind_ok answer
    cases answer
    obtain ⟨split₂, isOpening⟩ := expect_ok readOpening
    obtain ⟨split₃, isClose⟩ := expect_ok readClose
    simp only at split₁ split₂ split₃
    exact ⟨[name, opening, close], close, by simp [split₁, split₂, split₃], rfl,
      .word isName isOpening isClose⟩
  | none =>
    obtain ⟨⟨negative, r₁, shorter₁⟩, taken⟩ : ∃ front, minus ts = front := ⟨_, rfl⟩
    rw [named, taken] at answer
    obtain ⟨sign, split₁, isSign⟩ := minus_sound taken
    obtain ⟨⟨t, r₂, shorter₂⟩, readNumber, answer⟩ := bind_ok answer
    obtain ⟨value, readValue, answer⟩ := bind_ok answer
    obtain ⟨split₂, isNumber⟩ := expect_ok readNumber
    dsimp only at answer
    by_cases finite : (if negative then value.neg else value).isFinite = true
    · rw [if_pos finite] at answer
      cases answer
      refine ⟨sign ++ [t], t, ?_, rfl, .timestamp isSign isNumber readValue finite⟩
      simp only at split₁ split₂
      simp [split₁, split₂]
    · rw [if_neg finite] at answer
      cases answer

theorem pinned_sound {eof mark : Token} {e e' : Expr} {ts : List Token} {rest : Fewer ts}
    (isMark : mark.kind = .at) (answer : pinned eof mark e ts = .ok (e', rest)) :
    ∃ used, ts = used ++ rest.1 ∧ Suffix e (mark :: used) e' := by
  rw [pinned] at answer
  obtain ⟨⟨⟨value, last⟩, r₁⟩, readInstant, answer⟩ := bind_ok answer
  obtain ⟨used, t, split, rfl, clause⟩ := instant_sound readInstant
  simp only at answer
  split at answer
  · cases answer
  · next modifiers found =>
    split at answer
    · cases answer
    · next unset =>
      cases answer
      exact ⟨used, split, .pinned isMark clause found (by simpa using unset)⟩

theorem suffixes_sound (eof : Token) (e : Expr) (ts : List Token) {e' : Expr} {rest : AtMost ts}
    (answer : suffixes eof e ts = .ok (e', rest)) :
    ∃ used, ts = used ++ rest.1 ∧ Suffixes rest.1.head? e used e' := by
  match ts with
  | [] =>
    rw [suffixes] at answer
    cases answer
    exact ⟨[], rfl, .nil (NotAhead.none _)⟩
  | t :: tail =>
    -- Whichever suffix is read first, the others are read from a shorter list.
    have further {middle e₂ : Expr} {r₁ : Fewer tail} {r₂ : AtMost r₁.1} {used : List Token}
        (split : tail = used ++ r₁.1) (suffix : Suffix e (t :: used) middle)
        (readMore : suffixes eof middle r₁.1 = .ok (e₂, r₂)) :
        ∃ used, t :: tail = used ++ r₂.1 ∧ Suffixes r₂.1.head? e used e₂ := by
      have := r₁.2
      obtain ⟨more, splitMore, others⟩ := suffixes_sound eof middle r₁.1 readMore
      refine ⟨t :: used ++ more, ?_, .cons suffix others⟩
      simp only [List.cons_append, List.append_assoc, ← splitMore, ← split]
    rw [suffixes] at answer
    split at answer
    · next isBracket =>
      obtain ⟨⟨middle, r₁⟩, readWindow, answer⟩ := bind_ok answer
      obtain ⟨used, split, suffix⟩ := window_sound isBracket readWindow
      obtain ⟨⟨e₂, r₂, shorter₂⟩, readMore, answer⟩ := bind_ok answer
      cases answer
      exact further split suffix readMore
    · next noBracket =>
      split at answer
      · next isOffset =>
        obtain ⟨⟨middle, r₁⟩, readOffset, answer⟩ := bind_ok answer
        obtain ⟨used, split, suffix⟩ := offset_sound isOffset readOffset
        obtain ⟨⟨e₂, r₂, shorter₂⟩, readMore, answer⟩ := bind_ok answer
        cases answer
        exact further split suffix readMore
      · next noOffset =>
        split at answer
        · next isMark =>
          obtain ⟨⟨middle, r₁⟩, readPinned, answer⟩ := bind_ok answer
          obtain ⟨used, split, suffix⟩ := pinned_sound isMark readPinned
          obtain ⟨⟨e₂, r₂, shorter₂⟩, readMore, answer⟩ := bind_ok answer
          cases answer
          exact further split suffix readMore
        · next noMark =>
          cases answer
          refine ⟨[], rfl, .nil ?_⟩
          simp [startsSuffix, isKind, noBracket, noOffset, noMark]
  termination_by ts.length
  decreasing_by simp only [List.length_cons]; omega

/-! Selectors. -/

theorem matcher_sound {eof : Token} {ts : List Token} {m : Matcher} {rest : Fewer ts}
    (answer : matcher eof ts = .ok (m, rest)) : ∃ used, ts = used ++ rest.1 ∧ Condition used m := by
  rw [matcher] at answer
  obtain ⟨⟨label, r₁, shorter₁⟩, readLabel, answer⟩ := bind_ok answer
  obtain ⟨split₁, isLabel⟩ := expect_ok readLabel
  simp only at split₁ answer
  split at answer
  · cases answer
  · next op isOp =>
    obtain ⟨⟨value, r₂, shorter₂⟩, readValue, answer⟩ := bind_ok answer
    obtain ⟨decoded, readString, answer⟩ := bind_ok answer
    obtain ⟨split₂, isValue⟩ := expect_ok readValue
    cases answer
    -- The end of the text cannot have stood for the operator: a string came behind it.
    cases r₁ with
    | nil => cases split₂
    | cons symbol tail =>
      exact ⟨[label, symbol, value], by simp_all, .compare isLabel isOp isValue readString⟩

theorem matchers_sound {eof : Token} {ts : List Token} {found : List Matcher} {close : Token}
    {rest : Fewer ts} (answer : matchers eof ts = .ok ((found, close), rest)) :
    ∃ used, ts = used ++ close :: rest.1 ∧ close.kind = .rightBrace ∧ Listed Condition used found :=
  listed_sound (matchers_eq eof) matcher_sound answer

theorem braces_sound [Pattern.Engine] {eof : Token} {name : Option String} {named : List Matcher}
    {start : Text.Span} {opening : Token} {ts : List Token} {e : Expr} {rest : Fewer ts}
    (isOpening : opening.kind = .leftBrace)
    (answer : braces eof name named start ts = .ok (e, rest)) :
    ∃ used close found, ts = used ++ rest.1 ∧ Braces (opening :: used) opening close found ∧
      finishSelector name (named ++ found) (start.cover close.span) = .ok e := by
  rw [braces] at answer
  obtain ⟨⟨⟨found, close⟩, r₁⟩, readMatchers, answer⟩ := bind_ok answer
  obtain ⟨e', finished, answer⟩ := bind_ok answer
  cases answer
  obtain ⟨used, split, isClose, listed⟩ := matchers_sound readMatchers
  exact ⟨used ++ [close], close, found, by simp [split], .listed isOpening listed isClose, finished⟩

theorem namedSelector_sound [Pattern.Engine] {eof t : Token} {ts : List Token} {e : Expr} {rest : AtMost ts}
    (isMetric : IsMetric t ts.head?) (answer : namedSelector eof t ts = .ok (e, rest)) :
    ∃ used, ts = used ++ rest.1 ∧ Derives (.primary e) (t :: used) rest.1.head? := by
  rw [namedSelector] at answer
  split at answer
  · next eaten =>
    obtain ⟨e', finished, answer⟩ := bind_ok answer
    cases answer
    exact ⟨[], rfl, .metric isMetric (eat?_none eaten) finished⟩
  · next brace r₁ shorter₁ eaten =>
    obtain ⟨split₁, isBrace⟩ := eat?_some eaten
    obtain ⟨⟨e', r₂, shorter₂⟩, readBraces, answer⟩ := bind_ok answer
    cases answer
    obtain ⟨used, close, found, split₂, braces, finished⟩ := braces_sound isBrace readBraces
    rw [split₁] at isMetric
    exact ⟨brace :: used, by simp [split₁, split₂], .metricBraces isMetric braces finished⟩

/-! Expressions. -/

theorem boolFlag_sound {op : BinaryOp} {ts : List Token} {returnsBool : Bool} {rest : AtMost ts}
    (answer : boolFlag op ts = (returnsBool, rest)) :
    ∃ flag, ts = flag ++ rest.1 ∧ BoolFlag op rest.1.head? flag returnsBool := by
  rw [boolFlag] at answer
  split at answer
  · next comparison =>
    split at answer
    · next t r₁ shorter₁ eaten =>
      cases answer
      rw [eatWord?_eq] at eaten
      obtain ⟨split, isBool⟩ := front?_some eaten
      exact ⟨[t], split, .present comparison isBool⟩
    · next eaten =>
      cases answer
      rw [eatWord?_eq] at eaten
      exact ⟨[], rfl, .absent fun _ => front?_none eaten⟩
  · next noComparison =>
    cases answer
    exact ⟨[], rfl, .absent fun comparison => absurd comparison noComparison⟩

theorem startsAggregate_eq_false {ts : List Token} :
    startsAggregate ts = false ↔ NotAhead (isKind .leftParen) ts.head? ∧
      NotAhead (fun t => (groupingWord? t).isSome) ts.head? := by
  cases ts with
  | nil => simp [startsAggregate]
  | cons t rest =>
    simp only [startsAggregate, List.head?_cons, Option.any_some, NotAhead.some_iff, isKind, either?]
    cases isWord "by" t <;> cases isWord "without" t <;> simp

variable [Pattern.Engine]

-- The readers call each other on shorter lists, or on the same list in the order of the second
-- component of the measures, which are those of the readers.
mutual

theorem expr_sound (eof : Token) (least : Nat) (ts : List Token) {e : Expr} {rest : Fewer ts}
    (answer : expr eof least ts = .ok (e, rest)) :
    ∃ used, ts = used ++ rest.1 ∧ Derives (.expr least e) used rest.1.head? := by
  rw [expr] at answer
  obtain ⟨⟨lhs, r₁, shorter₁⟩, readLhs, answer⟩ := bind_ok answer
  obtain ⟨⟨e', r₂, shorter₂⟩, readChain, answer⟩ := bind_ok answer
  cases answer
  obtain ⟨left, split₁, operand⟩ := operand_sound eof ts readLhs
  obtain ⟨used, split₂, derived⟩ := chain_sound eof least lhs r₁ readChain (.first operand)
  exact ⟨left ++ used, by simp [split₁, split₂], derived⟩
  termination_by (ts.length, 3)

theorem chain_sound (eof : Token) (least : Nat) (lhs : Expr) (ts : List Token) {e : Expr}
    {rest : AtMost ts} (answer : chain eof least lhs ts = .ok (e, rest)) {left : List Token}
    (sofar : Derives (.chain least lhs) left ts.head?) :
    ∃ used, ts = used ++ rest.1 ∧ Derives (.expr least e) (left ++ used) rest.1.head? := by
  match ts with
  | [] =>
    rw [chain] at answer
    cases answer
    exact ⟨[], rfl, by simpa using .expr sofar (NotAhead.none _)⟩
  | t :: tail =>
    rw [chain] at answer
    split at answer
    · next noOperator =>
      cases answer
      exact ⟨[], rfl, by simpa using .expr sofar (by simp [continuesChain, noOperator])⟩
    · next op isOperator =>
      split at answer
      · next loose =>
        cases answer
        refine ⟨[], rfl, by simpa using .expr sofar (by simp [continuesChain, isOperator, loose])⟩
      · next tight =>
        obtain ⟨⟨returnsBool, r₁, shorter₁⟩, taken⟩ : ∃ front, boolFlag op tail = front := ⟨_, rfl⟩
        rw [taken] at answer
        obtain ⟨⟨matching, r₂, shorter₂⟩, readClause, answer⟩ := bind_ok answer
        obtain ⟨⟨rhs, r₃, shorter₃⟩, readRhs, answer⟩ := bind_ok answer
        obtain ⟨whole, built, answer⟩ := bind_ok answer
        obtain ⟨⟨e', r₄, shorter₄⟩, readMore, answer⟩ := bind_ok answer
        cases answer
        obtain ⟨flag, split₁, isFlag⟩ := boolFlag_sound taken
        obtain ⟨clause, split₂, isClause⟩ := vectorMatching_sound readClause
        obtain ⟨right, split₃, isRhs⟩ := expr_sound eof op.rightLevel r₂ readRhs
        -- What each clause saw ahead is the front of what was read behind it.
        simp only at split₁ split₂ split₃ isFlag isClause isRhs
        rw [split₃, head?_append] at isClause
        rw [split₂, split₃, head?_append, head?_append] at isFlag
        have further := Derives.operator sofar isOperator (Nat.le_of_not_lt tight) isFlag isClause
          isRhs built
        obtain ⟨used, split₄, derived⟩ := chain_sound eof least whole r₃ readMore further
        refine ⟨t :: (flag ++ clause ++ right) ++ used, ?_, by simpa using derived⟩
        simp [split₁, split₂, split₃, split₄]
  termination_by (ts.length, 0)

theorem operand_sound (eof : Token) (ts : List Token) {e : Expr} {rest : Fewer ts}
    (answer : operand eof ts = .ok (e, rest)) :
    ∃ used, ts = used ++ rest.1 ∧ Derives (.operand e) used rest.1.head? := by
  match ts with
  | [] =>
    rw [operand] at answer
    cases answer
  | t :: tail =>
    rw [operand] at answer
    split at answer
    · next op isSign =>
      obtain ⟨⟨body, r₁, shorter₁⟩, readBody, answer⟩ := bind_ok answer
      obtain ⟨e', built, answer⟩ := bind_ok answer
      cases answer
      obtain ⟨used, split, derived⟩ := expr_sound eof BinaryOp.pow.precedence tail readBody
      exact ⟨t :: used, by simp [split], .signed isSign derived built⟩
    · obtain ⟨⟨body, r₁, shorter₁⟩, readBody, answer⟩ := bind_ok answer
      obtain ⟨⟨e', r₂, shorter₂⟩, readSuffixes, answer⟩ := bind_ok answer
      cases answer
      obtain ⟨used, split₁, derived⟩ := primary_sound eof t tail readBody
      obtain ⟨more, split₂, suffixes⟩ := suffixes_sound eof body r₁ readSuffixes
      simp only at split₁ split₂ derived suffixes
      rw [split₂, head?_append] at derived
      exact ⟨t :: used ++ more, by simp [split₁, split₂], .suffixed derived suffixes⟩
  termination_by (ts.length, 2)

theorem primary_sound (eof t : Token) (ts : List Token) {e : Expr} {rest : AtMost ts}
    (answer : primary eof t ts = .ok (e, rest)) :
    ∃ used, ts = used ++ rest.1 ∧ Derives (.primary e) (t :: used) rest.1.head? := by
  rw [primary] at answer
  split at answer
  · next kind =>
    obtain ⟨value, readNumber, answer⟩ := bind_ok answer
    cases answer
    exact ⟨[], rfl, .number kind readNumber⟩
  · next kind =>
    obtain ⟨value, readString, answer⟩ := bind_ok answer
    cases answer
    exact ⟨[], rfl, .string kind readString⟩
  · next kind =>
    obtain ⟨⟨body, r₁, shorter₁⟩, readBody, answer⟩ := bind_ok answer
    obtain ⟨⟨close, r₂, shorter₂⟩, readClose, answer⟩ := bind_ok answer
    cases answer
    obtain ⟨used, split₁, derived⟩ := expr_sound eof 0 ts readBody
    obtain ⟨split₂, isClose⟩ := expect_ok readClose
    simp only at split₁ split₂ derived
    rw [split₂] at derived
    exact ⟨used ++ [close], by simp [split₁, split₂], .paren kind derived isClose⟩
  · next kind =>
    obtain ⟨⟨e', r₁, shorter₁⟩, readBraces, answer⟩ := bind_ok answer
    cases answer
    obtain ⟨used, close, found, split, braces, finished⟩ := braces_sound kind readBraces
    exact ⟨used, split, .braces braces finished⟩
  · next kind =>
    simp only at answer
    split at answer
    · next value isNumber =>
      cases answer
      exact ⟨[], rfl, .numberWord kind isNumber⟩
    · next noNumber =>
      have isName : IsName t := ⟨kind, noNumber⟩
      split at answer
      · next op isOp _ => exact aggregation_sound eof op t ts isName isOp answer
      · next noAggregate =>
        split at answer
        · next opening r₁ shorter₁ eaten =>
          obtain ⟨split₁, isOpening⟩ := eat?_some eaten
          split at answer
          · cases answer
          · next function isFunction =>
            obtain ⟨⟨⟨args, close⟩, r₂, shorter₂⟩, readArgs, answer⟩ := bind_ok answer
            obtain ⟨e', built, answer⟩ := bind_ok answer
            cases answer
            -- With a parenthesis behind it, the name of an aggregation is no function.
            have noOp : AggregateOp.ofName? t.text = none := by
              cases isOp : AggregateOp.ofName? t.text with
              | none => rfl
              | some op =>
                refine absurd ?_ (noAggregate op isOp)
                simp [split₁, startsAggregate, isOpening]
            obtain ⟨used, split₂, isClose, derived⟩ := arguments_sound eof .arguments r₁ readArgs
            exact ⟨opening :: (used ++ [close]), by simp [split₁, split₂],
              .call isName noOp isOpening isFunction derived isClose built⟩
        · next eaten =>
          split at answer
          · cases answer
          · next free =>
            -- The name of an aggregation can still be a metric, if nothing of one follows.
            refine namedSelector_sound ⟨isName, by simpa using free, eat?_none eaten, ?_⟩ answer
            intro isOp
            obtain ⟨op, isOp⟩ := Option.isSome_iff_exists.mp isOp
            exact (startsAggregate_eq_false.mp (by simpa using noAggregate op isOp)).2
  · cases answer
  termination_by (ts.length, 4)

theorem aggregation_sound (eof : Token) (op : AggregateOp) (t : Token) (ts : List Token) {e : Expr}
    {rest : AtMost ts} (isName : IsName t) (isOp : AggregateOp.ofName? t.text = some op)
    (answer : aggregation eof op t ts = .ok (e, rest)) :
    ∃ used, ts = used ++ rest.1 ∧ Derives (.primary e) (t :: used) rest.1.head? := by
  rw [aggregation] at answer
  obtain ⟨⟨leading, r₁, shorter₁⟩, readLeading, answer⟩ := bind_ok answer
  obtain ⟨⟨opening, r₂, shorter₂⟩, readOpening, answer⟩ := bind_ok answer
  obtain ⟨⟨⟨args, close⟩, r₃, shorter₃⟩, readArgs, answer⟩ := bind_ok answer
  obtain ⟨split₂, isOpening⟩ := expect_ok readOpening
  obtain ⟨used, split₃, isClose, derived⟩ := arguments_sound eof .aggregation r₂ readArgs
  simp only at split₂ split₃
  -- A grouping in front of the arguments excludes one behind them.
  obtain ⟨rfl, split₁, -⟩ | ⟨grouping, last, clause, rfl, split₁, isClause⟩ :=
    grouping?_sound readLeading
  · obtain ⟨⟨trailing, r₄, shorter₄⟩, readTrailing, answer⟩ := bind_ok answer
    obtain ⟨e', built, answer⟩ := bind_ok answer
    cases answer
    obtain ⟨rfl, split₄, noClause⟩ | ⟨grouping, last, clause, rfl, split₄, isClause⟩ :=
      grouping?_sound readTrailing
    · refine ⟨opening :: (used ++ close :: []), ?_,
        .aggregate isName isOp isOpening derived isClose (.absent noClause) built⟩
      simp_all
    · refine ⟨opening :: (used ++ close :: clause), ?_,
        .aggregate isName isOp isOpening derived isClose (.present isClause) built⟩
      simp_all
  · obtain ⟨e', built, answer⟩ := bind_ok answer
    cases answer
    refine ⟨clause ++ opening :: (used ++ [close]), ?_,
      .aggregateLeading isName isOp isClause isOpening derived isClose built⟩
    simp_all
  termination_by (ts.length, 3)

theorem arguments_sound (eof : Token) (context : Context) (ts : List Token) {args : List Expr}
    {close : Token} {rest : Fewer ts}
    (answer : arguments eof context ts = .ok ((args, close), rest)) :
    ∃ used, ts = used ++ close :: rest.1 ∧ close.kind = .rightParen ∧
      Derives (.arguments args) used (some close) := by
  rw [arguments_eq] at answer
  have read := listReads_ok answer
  generalize rest.1 = left at read ⊢
  cases read with
  | nil split isClose => exact ⟨[], split, isClose, .noArguments⟩
  | last readFirst split isClose =>
    obtain ⟨used, split₁, derived⟩ := expr_sound eof 0 ts readFirst
    rw [split] at derived
    exact ⟨used, by rw [split₁, split], isClose, .lastArgument derived⟩
  | @more first r₁ comma _ r₂ _ _ r₃ readFirst split isComma shorter₂ readMore same =>
    obtain ⟨used, split₁, derived⟩ := expr_sound eof 0 ts readFirst
    obtain ⟨others, split₂, isClose, derivedMore⟩ := arguments_sound eof context r₂ readMore
    rw [split] at derived
    refine ⟨used ++ comma :: others, ?_, isClose, .moreArguments derived isComma derivedMore⟩
    rw [split₁, split, split₂, same, List.append_assoc, List.cons_append]
  termination_by (ts.length, 4)

end

theorem whole_sound {eof : Token} {ts : List Token} {e : Expr} (answer : whole eof ts = .ok e) :
    Derives (.expr 0 e) ts none := by
  match ts with
  | [] => cases answer
  | t :: tail =>
    obtain ⟨⟨e', r₁, shorter₁⟩, readExpr, answer⟩ := bind_ok answer
    cases r₁ with
    | cons t' tail' => cases answer
    | nil =>
      cases answer
      obtain ⟨used, split, derived⟩ := expr_sound eof 0 (t :: tail) readExpr
      simp only [List.append_nil] at split
      exact split ▸ derived

/-- A text that parses has no faults, and its tokens are derived as the tree. -/
theorem parse_sound {source : String} {root : Expr} (parsed : Expr.parse source = .ok root) :
    ∃ tokens, Token.items source = tokens.map .token ∧ Derives (.expr 0 root) tokens none := by
  unfold Expr.parse at parsed
  split at parsed
  · next clean =>
    split at parsed
    · next read =>
      cases parsed
      exact ⟨_, Token.items_eq_map clean, whole_sound read⟩
    · cases parsed
  · cases parsed

end Grammar

end QueryLint
