import Mathlib
import QueryLint.Proofs.Expr.Nodes
import QueryLint.Proofs.Token.Order

/-! Where the nodes of a parsed tree lie in the text.

A phrase covers its tokens: its span runs from the start of the first to the end of the last. The
parts of a node cover stretches of the tokens of the node that follow each other, which is why they
lie inside the node and apart from each other. `parse_wellPlaced` puts this together for every node
of a parsed tree.
-/

set_option autoImplicit false

namespace QueryLint

open Text (Span byteSize)

/-- A selector with its matchers inside the span of its node. -/
structure Selector.WellPlaced (s : Selector) (outer : Span) : Prop where
  nonempty : s.span.start < s.span.stop
  inside : s.span.Inside outer
  matchers_inside : ∀ m ∈ s.matchers, m.span.Inside s.span
  matchers_apart : s.matchers.Pairwise fun a b => a.span.Before b.span

/-- A node that begins and ends with tokens of the text and holds its parts, one behind the
other. -/
structure Expr.WellPlaced (tokens : List Token) (n : Expr) : Prop where
  starts : ∃ t ∈ tokens, t.span.start = n.span.start
  stops : ∃ t ∈ tokens, t.span.stop = n.span.stop
  nonempty : n.span.start < n.span.stop
  children_inside : ∀ c ∈ n.children, c.span.Inside n.span
  children_apart : n.children.Pairwise fun a b => a.span.Before b.span
  selector : ∀ s ∈ n.selector?, s.WellPlaced n.span

theorem Expr.WellPlaced.mono {tokens more : List Token} {n : Expr} (placed : n.WellPlaced tokens)
    (sub : tokens ⊆ more) : n.WellPlaced more := by
  obtain ⟨first, firstMember, starts⟩ := placed.starts
  obtain ⟨last, lastMember, stops⟩ := placed.stops
  exact { placed with
    starts := ⟨first, sub firstMember, starts⟩
    stops := ⟨last, sub lastMember, stops⟩ }

namespace Grammar

open QueryLint.Parser

/-! Stretches of tokens. -/

/-- Tokens that stand one behind the other. -/
def Ordered (ts : List Token) : Prop :=
  ∃ low high, Span.InOrder low high (ts.map (·.span))

theorem Ordered.sublist {ts part : List Token} (ordered : Ordered ts) (sub : part.Sublist ts) :
    Ordered part := by
  obtain ⟨low, high, order⟩ := ordered
  exact ⟨low, high, order.sublist (sub.map _)⟩

theorem Ordered.left {front back : List Token} (ordered : Ordered (front ++ back)) : Ordered front :=
  ordered.sublist (List.sublist_append_left _ _)

theorem Ordered.right {front back : List Token} (ordered : Ordered (front ++ back)) : Ordered back :=
  ordered.sublist (List.sublist_append_right _ _)

theorem Ordered.nonempty {ts : List Token} (ordered : Ordered ts) {t : Token} (member : t ∈ ts) :
    t.span.start < t.span.stop := by
  obtain ⟨low, high, order⟩ := ordered
  exact order.nonempty _ (List.mem_map_of_mem member)

theorem Ordered.before {front back : List Token} (ordered : Ordered (front ++ back)) {a b : Token}
    (inFront : a ∈ front) (inBack : b ∈ back) : a.span.Before b.span := by
  obtain ⟨low, high, order⟩ := ordered
  have apart := order.apart
  rw [List.map_append, List.pairwise_append] at apart
  exact apart.2.2 _ (List.mem_map_of_mem inFront) _ (List.mem_map_of_mem inBack)

/-- The span runs from the start of the first token to the end of the last. -/
def Covers (ts : List Token) (s : Span) : Prop :=
  ∃ first last, ts.head? = some first ∧ ts.getLast? = some last ∧
    s = ⟨first.span.start, last.span.stop⟩

theorem Covers.single (t : Token) : Covers [t] t.span :=
  ⟨t, t, rfl, rfl, rfl⟩

/-- Two stretches, and whatever stands between them, are covered together. -/
theorem Covers.join {left middle right : List Token} {a b : Span}
    (ordered : Ordered (left ++ middle ++ right)) (coversLeft : Covers left a)
    (coversRight : Covers right b) : Covers (left ++ middle ++ right) (a.cover b) := by
  obtain ⟨first, last, isFirst, isLast, rfl⟩ := coversLeft
  obtain ⟨first', last', isFirst', isLast', rfl⟩ := coversRight
  refine ⟨first, last', by simp [isFirst], by simp [isLast'], ?_⟩
  have firstMember := List.mem_of_mem_head? isFirst
  have lastMember := List.mem_of_getLast? isLast
  have firstMember' := List.mem_of_mem_head? isFirst'
  have lastMember' := List.mem_of_getLast? isLast'
  -- No token is empty, so the first one has the least start and the last one the greatest stop.
  have startsBefore := ordered.before (List.mem_append_left middle firstMember) firstMember'
  have stopsBefore := ordered.before (List.mem_append_left middle lastMember) lastMember'
  have firstNonempty := ordered.nonempty (by simp [firstMember] : first ∈ left ++ middle ++ right)
  have lastNonempty := ordered.nonempty (by simp [lastMember'] : last' ∈ left ++ middle ++ right)
  simp only [Span.Before] at startsBefore stopsBefore
  simp only [Span.cover, Span.mk.injEq]
  omega

theorem Covers.ends {first last : Token} {middle : List Token}
    (ordered : Ordered (first :: (middle ++ [last]))) :
    Covers (first :: (middle ++ [last])) (first.span.cover last.span) := by
  have shape : first :: (middle ++ [last]) = [first] ++ middle ++ [last] := by simp
  rw [shape] at ordered ⊢
  exact .join ordered (.single first) (.single last)

/-- Every token of a stretch lies inside the span of the stretch. -/
theorem Covers.token_inside {ts : List Token} {s : Span} (ordered : Ordered ts) (covers : Covers ts s)
    {t : Token} (member : t ∈ ts) : t.span.Inside s := by
  obtain ⟨first, last, isFirst, isLast, rfl⟩ := covers
  have nonempty := ordered.nonempty member
  obtain ⟨rest, rfl⟩ := List.head?_eq_some_iff.mp isFirst
  obtain ⟨front, split⟩ := List.getLast?_eq_some_iff.mp isLast
  constructor
  · rcases List.mem_cons.mp member with rfl | inRest
    · exact Nat.le_refl _
    · have before := Ordered.before (show Ordered ([first] ++ rest) from ordered)
        (List.mem_singleton_self first) inRest
      have firstNonempty := ordered.nonempty (t := first) (by simp)
      simp only [Span.Before] at before ⊢
      omega
  · rw [split] at ordered member
    rcases List.mem_append.mp member with inFront | isLast
    · have before := ordered.before inFront (List.mem_singleton_self last)
      have lastNonempty := ordered.nonempty (t := last) (by simp)
      simp only [Span.Before] at before ⊢
      omega
    · cases List.mem_singleton.mp isLast
      exact Nat.le_refl _

theorem Covers.nonempty {ts : List Token} {s : Span} (ordered : Ordered ts) (covers : Covers ts s) :
    s.start < s.stop := by
  obtain ⟨first, isFirst⟩ : ∃ first, ts.head? = some first := by
    obtain ⟨first, _, isFirst, _⟩ := covers
    exact ⟨first, isFirst⟩
  have member := List.mem_of_mem_head? isFirst
  have inside := covers.token_inside ordered member
  exact Nat.lt_of_le_of_lt inside.1 (Nat.lt_of_lt_of_le (ordered.nonempty member) inside.2)

/-- A stretch lies inside every stretch that it is a part of. -/
theorem Covers.inside {ts part : List Token} {s a : Span} (ordered : Ordered ts)
    (covers : Covers ts s) (sub : part ⊆ ts) (coversPart : Covers part a) : a.Inside s := by
  obtain ⟨first, last, isFirst, isLast, rfl⟩ := coversPart
  have starts := covers.token_inside ordered (sub (List.mem_of_mem_head? isFirst))
  have stops := covers.token_inside ordered (sub (List.mem_of_getLast? isLast))
  exact ⟨starts.1, stops.2⟩

/-- Spans that cover stretches of the tokens, one behind the other. -/
structure Spread (ts : List Token) (spans : List Span) : Prop where
  covered : ∀ s ∈ spans, ∃ part, part <:+: ts ∧ Covers part s
  apart : spans.Pairwise Span.Before

theorem Spread.nil (ts : List Token) : Spread ts [] :=
  ⟨by simp, .nil⟩

theorem Spread.single {ts : List Token} {s : Span} (covers : Covers ts s) : Spread ts [s] :=
  ⟨by simpa using ⟨ts, List.infix_rfl, covers⟩, List.pairwise_singleton _ _⟩

theorem Spread.mono {ts more : List Token} {spans : List Span} (spread : Spread ts spans)
    (sub : ts <:+: more) : Spread more spans := by
  refine ⟨fun s member => ?_, spread.apart⟩
  obtain ⟨part, inside, covers⟩ := spread.covered s member
  exact ⟨part, inside.trans sub, covers⟩

theorem Spread.append {front back : List Token} {first second : List Span}
    (ordered : Ordered (front ++ back)) (spreadFront : Spread front first)
    (spreadBack : Spread back second) : Spread (front ++ back) (first ++ second) := by
  constructor
  · intro s member
    rcases List.mem_append.mp member with member | member
    · exact (spreadFront.mono (List.prefix_append _ _).isInfix).covered s member
    · exact (spreadBack.mono (List.suffix_append _ _).isInfix).covered s member
  · refine List.pairwise_append.mpr ⟨spreadFront.apart, spreadBack.apart, fun a inFirst b inSecond => ?_⟩
    obtain ⟨part, sub, first, last, isFirst, isLast, rfl⟩ := spreadFront.covered a inFirst
    obtain ⟨part', sub', first', last', isFirst', isLast', rfl⟩ := spreadBack.covered b inSecond
    exact ordered.before (sub.subset (List.mem_of_getLast? isLast))
      (sub'.subset (List.mem_of_mem_head? isFirst'))

theorem Spread.inside {ts : List Token} {s : Span} {spans : List Span} (ordered : Ordered ts)
    (covers : Covers ts s) (spread : Spread ts spans) : ∀ a ∈ spans, a.Inside s := by
  intro a member
  obtain ⟨part, sub, coversPart⟩ := spread.covered a member
  exact covers.inside ordered sub.subset coversPart

/-! Nodes. -/

/-- All nodes of a tree are well placed among the tokens. -/
def AllPlaced (ts : List Token) (e : Expr) : Prop :=
  ∀ n, e.Reaches n → n.WellPlaced ts

theorem AllPlaced.mono {ts more : List Token} {e : Expr} (all : AllPlaced ts e)
    (sub : ts <:+: more) : AllPlaced more e :=
  fun n reached => (all n reached).mono sub.subset

theorem AllPlaced.own {ts : List Token} {e : Expr} (all : AllPlaced ts e) : e.WellPlaced ts :=
  all e (Expr.reaches_iff.mpr (.inl rfl))

/-- A tree that covers the tokens, with all its nodes well placed. -/
structure Placed (ts : List Token) (e : Expr) : Prop where
  covers : Covers ts e.span
  nodes : AllPlaced ts e

theorem Placed.node {ts : List Token} {e : Expr} (ordered : Ordered ts) (covers : Covers ts e.span)
    (inside : ∀ c ∈ e.children, c.span.Inside e.span)
    (apart : e.children.Pairwise fun a b => a.span.Before b.span)
    (below : ∀ c ∈ e.children, AllPlaced ts c) (selector : ∀ s ∈ e.selector?, s.WellPlaced e.span) :
    Placed ts e := by
  refine ⟨covers, Expr.forall_reaches ?_ below⟩
  have nonempty := covers.nonempty ordered
  obtain ⟨first, last, isFirst, isLast, same⟩ := covers
  exact {
    starts := ⟨first, List.mem_of_mem_head? isFirst, by rw [same]⟩
    stops := ⟨last, List.mem_of_getLast? isLast, by rw [same]⟩
    nonempty := nonempty
    children_inside := inside
    children_apart := apart
    selector := selector }

/-- A node is well placed if it covers its tokens and its parts are spread over them. -/
theorem Placed.spread {ts : List Token} {e : Expr} (ordered : Ordered ts)
    (covers : Covers ts e.span) (spread : Spread ts (e.children.map Expr.span))
    (below : ∀ c ∈ e.children, AllPlaced ts c) (noSelector : e.selector? = none) : Placed ts e := by
  have inside := spread.inside ordered covers
  exact .node ordered covers (fun c member => inside _ (List.mem_map_of_mem member))
    (List.pairwise_map.mp spread.apart) below (by simp [noSelector])

/-- A node without parts. -/
theorem Placed.leaf {ts : List Token} {e : Expr} (ordered : Ordered ts) (covers : Covers ts e.span)
    (noChildren : e.children = []) (selector : ∀ s ∈ e.selector?, s.WellPlaced e.span) :
    Placed ts e :=
  .node ordered covers (by simp [noChildren]) (by simp [noChildren]) (by simp [noChildren]) selector

/-- A node around a single part that covers a stretch of its tokens. -/
theorem Placed.around {ts part : List Token} {e body : Expr} (ordered : Ordered ts)
    (covers : Covers ts e.span) (sub : part <:+: ts) (placed : Placed part body)
    (only : e.children = [body]) (noSelector : e.selector? = none) : Placed ts e := by
  refine .spread ordered covers ?_ ?_ noSelector
  · simpa [only] using (Spread.single placed.covers).mono sub
  · simpa [only] using placed.nodes.mono sub

theorem Listed.spread {α : Type} {Item : List Token → α → Prop} {spanOf : α → Span}
    (item : ∀ used a, Ordered used → Item used a → Covers used (spanOf a)) {used : List Token}
    {as : List α} (listed : Listed Item used as) (ordered : Ordered used) :
    Spread used (as.map spanOf) := by
  induction listed with
  | nil => exact .nil _
  | last isItem => exact .single (item _ _ ordered isItem)
  | @more used rest comma a as isItem _ _ ih =>
    have whole : Ordered ((used ++ [comma]) ++ rest) := by simpa using ordered
    have first := (Spread.single (item _ _ ordered.left isItem)).mono
      (List.prefix_append used [comma]).isInfix
    simpa using first.append whole (ih whole.right)

/-! Selectors and suffixes. -/

theorem Condition.covers {used : List Token} {m : Matcher} (ordered : Ordered used)
    (condition : Condition used m) : Covers used m.span := by
  cases condition with
  | @compare label symbol value =>
    have shaped : Ordered (label :: ([symbol] ++ [value])) := ordered
    exact .ends shaped

theorem Braces.covers {used : List Token} {opening close : Token} {found : List Matcher}
    (ordered : Ordered used) (braces : Braces used opening close found) :
    Covers used (opening.span.cover close.span) := by
  cases braces with
  | listed => exact .ends ordered

theorem Braces.spread {used : List Token} {opening close : Token} {found : List Matcher}
    (ordered : Ordered used) (braces : Braces used opening close found) :
    Spread used (found.map Matcher.span) := by
  cases braces with
  | @listed _ _ inner _ _ listed _ =>
    have sub : inner <:+: opening :: (inner ++ [close]) := ⟨[opening], [close], by simp⟩
    have inOrder := ordered.sublist sub.sublist
    exact (listed.spread (fun _ _ ordered item => item.covers ordered) inOrder).mono sub

theorem Placed.selector [Pattern.Engine] {ts : List Token} {name : Option String} {found : List Matcher}
    {span : Span} {e : Expr} (ordered : Ordered ts) (covers : Covers ts span)
    (spread : Spread ts (found.map Matcher.span))
    (built : finishSelector name found span = .ok e) : Placed ts e := by
  obtain ⟨rfl, -⟩ := finishSelector_ok built
  refine .leaf ordered covers rfl ?_
  intro s isSelector
  cases isSelector
  have inside := spread.inside ordered covers
  exact ⟨covers.nonempty ordered, ⟨Nat.le_refl _, Nat.le_refl _⟩,
    fun m member => inside _ (List.mem_map_of_mem member), List.pairwise_map.mp spread.apart⟩

/-- A name and braces: the matcher of the name comes first. -/
theorem Placed.metricBraces [Pattern.Engine] {t opening close : Token} {name : Option String}
    {found : List Matcher} {e : Expr} {used : List Token} (ordered : Ordered (t :: used))
    (braces : Braces used opening close found)
    (built : finishSelector name (nameMatcher t :: found)
      ((t.span.cover opening.span).cover close.span) = .ok e) : Placed (t :: used) e := by
  have inOrder : Ordered used := ordered.sublist (List.sublist_cons_self _ _)
  have parts : Spread ([t] ++ used) ([t.span] ++ found.map Matcher.span) :=
    .append ordered (.single (.single t)) (braces.spread inOrder)
  have spread : Spread (t :: used) ((nameMatcher t :: found).map Matcher.span) := parts
  refine .selector ordered ?_ spread built
  -- The span is covered in two steps, from the name to the opening brace and on to the closing one.
  cases braces with
  | @listed _ _ inner _ _ _ _ =>
    have shaped : Ordered ([t, opening] ++ inner ++ [close]) := by simpa using ordered
    have front : Covers (t :: ([] ++ [opening])) (t.span.cover opening.span) := .ends shaped.left.left
    simpa using Covers.join shaped front (.single close)

/-- A suffix widens the node in front of it up to the last token. -/
theorem Suffix.span_eq {e e' : Expr} {used : List Token} (suffix : Suffix e used e') :
    ∃ middle last, used = middle ++ [last] ∧ e'.span = e.span.cover last.span := by
  cases suffix with
  | @range opening length close => exact ⟨[opening, length], close, rfl, rfl⟩
  | @subquery opening length colon close step =>
    exact ⟨opening :: length :: colon :: step, close, rfl, rfl⟩
  | @offset word length sign _ _ _ _ _ _ _ modifiable =>
    exact ⟨word :: sign, length, rfl, Expr.span_modify modifiable⟩
  | @pinned mark last used _ _ _ _ isInstant modifiable =>
    cases isInstant with
    | @word name opening =>
      exact ⟨[mark, name, opening], last, rfl, Expr.span_modify modifiable⟩
    | @timestamp sign => exact ⟨mark :: sign, last, rfl, Expr.span_modify modifiable⟩

/-- A suffix keeps the matchers of a selector; the span of the selector is then that of the node or
stays what it was. -/
theorem Suffix.selector?_eq {e e' : Expr} {used : List Token} (suffix : Suffix e used e')
    {s : Selector} (found : e'.selector? = some s) :
    ∃ before, e.selector? = some before ∧ s.matchers = before.matchers ∧ s.name = before.name ∧
      ((e.span = before.span ∧ s.span = e'.span) ∨ s.span = before.span) := by
  cases suffix with
  | range =>
    cases found
    exact ⟨s, rfl, rfl, rfl, .inr rfl⟩
  | subquery => cases found
  | offset _ _ _ modifiable | pinned _ _ modifiable =>
    obtain ⟨before, isSelector, matchers, name, spans⟩ := Expr.selector?_modify found
    refine ⟨before, isSelector, matchers, name, spans.imp_left ?_⟩
    rintro ⟨same, widened⟩
    exact ⟨same, by rw [widened, Expr.span_modify modifiable, same]⟩

theorem Suffix.placed {e e' : Expr} {used more : List Token} (suffix : Suffix e more e')
    (ordered : Ordered (used ++ more)) (placed : Placed used e) : Placed (used ++ more) e' := by
  obtain ⟨middle, last, shape, widened⟩ := suffix.span_eq
  have covers : Covers (used ++ more) e'.span := by
    rw [shape, ← List.append_assoc] at ordered ⊢
    rw [widened]
    exact .join ordered placed.covers (.single last)
  have sub : used <:+: used ++ more := (List.prefix_append _ _).isInfix
  have inside : e.span.Inside e'.span := covers.inside ordered sub.subset placed.covers
  have own := placed.nodes.own
  have selector : ∀ s ∈ e'.selector?, s.WellPlaced e'.span := by
    intro s isSelector
    obtain ⟨before, isBefore, matchers, -, spans⟩ := suffix.selector?_eq isSelector
    have wellPlaced := own.selector before isBefore
    -- The selector grows with a modifier, unless a range stands between them.
    rcases spans with ⟨same, isWhole⟩ | same
    · refine ⟨isWhole ▸ covers.nonempty ordered, isWhole ▸ ⟨Nat.le_refl _, Nat.le_refl _⟩, ?_,
        matchers ▸ wellPlaced.matchers_apart⟩
      rw [matchers, isWhole]
      exact fun m member => (same ▸ wellPlaced.matchers_inside m member).trans inside
    · refine ⟨same ▸ wellPlaced.nonempty, same ▸ wellPlaced.inside.trans inside, ?_,
        matchers ▸ wellPlaced.matchers_apart⟩
      rw [matchers, same]
      exact wellPlaced.matchers_inside
  -- A modifier or a range keeps the parts; a subquery has the expression in front as its part.
  by_cases kept : e'.children = e.children
  · refine .node ordered covers ?_ (kept ▸ own.children_apart) ?_ selector
    · rw [kept]
      exact fun c member => (own.children_inside c member).trans inside
    · rw [kept]
      exact fun c member n reached =>
        (placed.nodes n (Expr.reaches_iff.mpr (.inr ⟨c, member, reached⟩))).mono sub.subset
  · cases suffix with
    | subquery => exact .around ordered covers sub placed rfl rfl
    | range => exact absurd rfl kept
    | offset | pinned => exact absurd (Expr.children_modify _ _ _) kept

theorem Suffixes.placed {next : Option Token} {e e' : Expr} {used more : List Token}
    (suffixes : Suffixes next e more e') (ordered : Ordered (used ++ more))
    (placed : Placed used e) : Placed (used ++ more) e' := by
  induction suffixes generalizing used with
  | nil => simpa using placed
  | cons suffix _ ih =>
    rw [← List.append_assoc] at ordered ⊢
    exact ih ordered (suffix.placed ordered.left placed)

/-! Phrases. -/

/-- Arguments spread over the tokens, with all their nodes well placed. -/
structure ArgumentsPlaced (ts : List Token) (args : List Expr) : Prop where
  spread : Spread ts (args.map Expr.span)
  nodes : ∀ arg ∈ args, AllPlaced ts arg

theorem ArgumentsPlaced.mono {ts more : List Token} {args : List Expr}
    (placed : ArgumentsPlaced ts args) (sub : ts <:+: more) : ArgumentsPlaced more args :=
  ⟨placed.spread.mono sub, fun arg member => (placed.nodes arg member).mono sub⟩

theorem ArgumentsPlaced.single {ts : List Token} {e : Expr} (placed : Placed ts e) :
    ArgumentsPlaced ts [e] :=
  ⟨.single placed.covers, by simpa using placed.nodes⟩

theorem ArgumentsPlaced.append {front back : List Token} {first second : List Expr}
    (ordered : Ordered (front ++ back)) (placedFront : ArgumentsPlaced front first)
    (placedBack : ArgumentsPlaced back second) :
    ArgumentsPlaced (front ++ back) (first ++ second) := by
  refine ⟨by simpa using placedFront.spread.append ordered placedBack.spread, ?_⟩
  intro arg member
  rcases List.mem_append.mp member with member | member
  · exact (placedFront.nodes arg member).mono (List.prefix_append _ _).isInfix
  · exact (placedBack.nodes arg member).mono (List.suffix_append _ _).isInfix

/-- A call or an aggregation: its arguments lie somewhere among its tokens. -/
theorem ArgumentsPlaced.node {ts part : List Token} {args : List Expr} {e : Expr}
    (placed : ArgumentsPlaced part args) (sub : part <:+: ts) (ordered : Ordered ts)
    (covers : Covers ts e.span) (same : e.children = args) (noSelector : e.selector? = none) :
    Placed ts e := by
  subst same
  exact .spread ordered covers (placed.mono sub).spread (placed.mono sub).nodes noSelector

/-- What a derivation says of the places of its trees. -/
def Phrase.Placed (ts : List Token) : Phrase → Prop
  | .expr _ e | .chain _ e | .operand e | .primary e => Grammar.Placed ts e
  | .arguments args => ArgumentsPlaced ts args

theorem GroupingClause.getLast?_eq {used : List Token} {last : Token} {grouping : Grouping}
    (clause : GroupingClause used last grouping) : used.getLast? = some last := by
  cases clause with
  | labels _ isList =>
    cases isList with
    | parens => simp [List.getLast?_cons]

theorem Trailing.getLast?_eq {close last : Token} {next : Option Token} {used : List Token}
    {grouping : Grouping} (trailing : Trailing close next used last grouping) :
    (close :: used).getLast? = some last := by
  cases trailing with
  | absent => rfl
  | present clause => simp [List.getLast?_cons, clause.getLast?_eq]

theorem Derives.placed [Pattern.Engine] {phrase : Phrase} {used : List Token} {next : Option Token}
    (derived : Derives phrase used next) (ordered : Ordered used) : phrase.Placed used := by
  induction derived with
  | expr _ _ ih | first _ ih => exact ih ordered
  | @operator _ _ t _ _ _ _ _ left flag clause right _ _ _ _ _ _ _ built ihLhs ihRhs =>
    have shape : left ++ t :: (flag ++ clause ++ right) = left ++ (t :: (flag ++ clause)) ++ right := by
      simp
    rw [shape] at ordered ⊢
    have placedLhs : Placed left _ := ihLhs ordered.left.left
    have placedRhs : Placed right _ := ihRhs ordered.right
    obtain ⟨rfl, -⟩ := buildBinary_ok built
    have covers := Covers.join ordered placedLhs.covers placedRhs.covers
    have front := (ArgumentsPlaced.single placedLhs).mono
      (List.prefix_append left (t :: (flag ++ clause))).isInfix
    exact (front.append ordered (.single placedRhs)).node List.infix_rfl ordered covers rfl rfl
  | @signed _ sign body _ used _ _ _ built ih =>
    have placed : Placed used body := ih (ordered.sublist (List.sublist_cons_self _ _))
    have covers : Covers (sign :: used) (sign.span.cover body.span) := by
      have shaped : Ordered ([sign] ++ [] ++ used) := ordered
      exact .join shaped (.single sign) placed.covers
    -- The number takes the sign in, or the sign becomes a node around its operand.
    rcases buildUnary_ok built with ⟨value, span, value', rfl, rfl⟩ | ⟨rfl, -, -⟩
    · exact .leaf ordered covers rfl (by simp [Expr.selector?])
    · exact .around ordered covers (List.suffix_cons _ _).isInfix placed rfl rfl
  | suffixed _ suffixes ih => exact suffixes.placed ordered (ih ordered.left)
  | @number t | @numberWord t | @string t =>
    exact .leaf ordered (.single t) rfl (by simp [Expr.selector?])
  | @paren opening close e used _ _ _ _ ih =>
    have sub : used <:+: opening :: (used ++ [close]) := ⟨[opening], [close], by simp⟩
    exact .around ordered (.ends ordered) sub (ih (ordered.sublist sub.sublist)) rfl rfl
  | braces isBraces built =>
    exact .selector ordered (isBraces.covers ordered) (isBraces.spread ordered) built
  | @metric t _ _ _ _ built =>
    have spread : Spread [t] ([nameMatcher t].map Matcher.span) := .single (.single t)
    exact .selector ordered (.single t) spread built
  | metricBraces _ isBraces built => exact .metricBraces ordered isBraces built
  | @call t opening close _ _ _ used _ _ _ _ _ _ _ built ih =>
    have sub : used <:+: t :: opening :: (used ++ [close]) := ⟨[t, opening], [close], by simp⟩
    have shaped : Ordered (t :: ((opening :: used) ++ [close])) := ordered
    obtain ⟨rfl, -, -⟩ := buildCall_ok built
    exact (ih (ordered.sublist sub.sublist)).node sub ordered (.ends shaped) rfl rfl
  | @aggregateLeading t opening close _ _ _ _ _ clause used _ _ _ _ _ _ _ built ih =>
    have shape : t :: (clause ++ opening :: (used ++ [close])) =
        t :: ((clause ++ opening :: used) ++ [close]) := by simp
    rw [shape] at ordered ⊢
    have sub : used <:+: t :: ((clause ++ opening :: used) ++ [close]) :=
      ⟨t :: (clause ++ [opening]), [close], by simp⟩
    obtain ⟨param, body, rfl, rfl, -⟩ := buildAggregate_ok built
    exact (ih (ordered.sublist sub.sublist)).node sub ordered (.ends ordered) rfl rfl
  | @aggregate t opening close last _ _ _ _ used clause _ _ _ _ _ _ trailing built ih =>
    -- The last token is that of the grouping, or the closing parenthesis without one.
    obtain ⟨front, split⟩ := List.getLast?_eq_some_iff.mp trailing.getLast?_eq
    have shape : t :: opening :: (used ++ close :: clause) =
        t :: ((opening :: (used ++ front)) ++ [last]) := by simp [split]
    have sub : used <:+: t :: opening :: (used ++ close :: clause) :=
      ⟨[t, opening], close :: clause, by simp⟩
    have placed := ih (ordered.sublist sub.sublist)
    have covers : Covers (t :: opening :: (used ++ close :: clause)) (t.span.cover last.span) := by
      rw [shape] at ordered ⊢
      exact .ends ordered
    obtain ⟨param, body, rfl, rfl, -⟩ := buildAggregate_ok built
    exact placed.node sub ordered covers rfl rfl
  | noArguments => exact ⟨.nil _, by simp⟩
  | lastArgument _ ih => exact .single (ih ordered)
  | @moreArguments comma e es used more _ _ _ _ ihFirst ihMore =>
    have whole : Ordered ((used ++ [comma]) ++ more) := by simpa using ordered
    have front : ArgumentsPlaced (used ++ [comma]) [e] :=
      (ArgumentsPlaced.single (ihFirst ordered.left)).mono (List.prefix_append _ _).isInfix
    simpa [Phrase.Placed] using front.append whole (ihMore whole.right)

theorem ordered_items {source : String} {tokens : List Token}
    (clean : Token.items source = tokens.map .token) :
    Span.InOrder 0 (byteSize source.toList) (tokens.map (·.span)) := by
  have order := Token.scan_inOrder 0 0 source.toList
  rw [show Token.scan 0 0 source.toList = _ from clean, List.map_map, Nat.zero_add] at order
  exact order

/-- A parsed tree covers the tokens of its text. -/
theorem parse_placed [Pattern.Engine] {source : String} {root : Expr}
    (parsed : Expr.parse source = .ok root) :
    ∃ tokens, Token.items source = tokens.map .token ∧ Placed tokens root := by
  obtain ⟨tokens, clean, derived⟩ := parse_sound parsed
  exact ⟨tokens, clean, derived.placed ⟨_, _, ordered_items clean⟩⟩

/-- A node that ends with a token of the text fits into the text. -/
theorem stop_le_byteSize {source : String} {tokens : List Token} {n : Expr}
    (clean : Token.items source = tokens.map .token) (placed : n.WellPlaced tokens) :
    n.span.stop ≤ byteSize source.toList := by
  obtain ⟨t, member, stops⟩ := placed.stops
  rw [← stops]
  exact ((ordered_items clean).bounded _ (List.mem_map_of_mem member)).2

end Grammar

/-- The root of a parsed tree runs from the first to the last token, and every node begins and ends
with tokens, holds its parts and keeps them apart. -/
theorem Expr.parse_wellPlaced [Pattern.Engine] {source : String} {root : Expr}
    (parsed : Expr.parse source = .ok root) :
    ∃ tokens, Token.tokenize source = .ok (tokens ++ [Token.eof source]) ∧
      Grammar.Covers tokens root.span ∧
      ∀ n, root.Reaches n → n.WellPlaced tokens ∧ n.span.stop ≤ byteSize source.toList := by
  obtain ⟨tokens, clean, placed⟩ := Grammar.parse_placed parsed
  refine ⟨tokens, Token.tokenize_eq_ok clean, placed.covers, ?_⟩
  intro n reached
  have wellPlaced := placed.nodes n reached
  exact ⟨wellPlaced, Grammar.stop_le_byteSize clean wellPlaced⟩

theorem Expr.parse_wellPlaced_sum :
    let _ := Pattern.Engine.ofAnswers []
    ∃ root, Expr.parse "-a\x7bb='c'\x7d + on (b) d" = .ok root ∧
      ∃ tokens, Token.tokenize "-a\x7bb='c'\x7d + on (b) d" =
          .ok (tokens ++ [Token.eof "-a\x7bb='c'\x7d + on (b) d"]) ∧
        Grammar.Covers tokens root.span ∧
        ∀ n, root.Reaches n →
          n.WellPlaced tokens ∧
            n.span.stop ≤ byteSize ("-a\x7bb='c'\x7d + on (b) d" : String).toList := by
  intro _
  have reads : (Expr.parse "-a\x7bb='c'\x7d + on (b) d").isOk = true := by cbv
  obtain ⟨root, parsed⟩ := Grammar.exists_of_isOk reads
  exact ⟨root, parsed, parse_wellPlaced parsed⟩

end QueryLint
