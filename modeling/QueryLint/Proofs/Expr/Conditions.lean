import QueryLint.Proofs.Expr.Placement
import QueryLint.Proofs.Expr.Walk
import QueryLint.Proofs.Grammar.Segments

/-! The conditions of an expression, as its tokens and as its tree have them.

Read off the tokens, a condition is a label, an operator and a quoted value, one behind the other
inside braces. In the tree it is a matcher of a selector, other than the one that a name in front of
the braces stands for. `Derives.shows` says that every phrase has the same conditions, in the same
order, on both sides.
-/

set_option autoImplicit false

namespace QueryLint

/-- A condition as it is written; its value is what the quoted text stands for. -/
structure Comparison where
  label : String
  op : MatchOp
  value : Except Literal.QuotedError String

namespace Token

/-- The comparison that the tokens begin with. -/
def comparison? : List Token → Option Comparison
  | label :: symbol :: value :: _ =>
    if label.kind = .identifier ∧ value.kind = .string then
      (MatchOp.ofKind? symbol.kind).map fun op =>
        ⟨label.text, op, Literal.Quoted.read value.text⟩
    else none
  | _ => none

/-- The comparisons inside braces, `depth` of which are open. -/
def comparisons (depth : Nat) : List Token → List Comparison
  | [] => []
  | t :: rest =>
    match t.kind with
    | .leftBrace => comparisons (depth + 1) rest
    | .rightBrace => comparisons (depth - 1) rest
    | _ => (if depth = 0 then none else comparison? (t :: rest)).toList ++ comparisons depth rest

end Token

def Matcher.comparison (m : Matcher) : Comparison :=
  ⟨m.label, m.op, .ok m.value⟩

/-- The matchers that stand in the braces of a selector. -/
def Selector.braced (s : Selector) : List Matcher :=
  if s.name.isSome then s.matchers.tail else s.matchers

namespace Expr

/-- The matchers in the braces of a node that is a selector. -/
def braced (n : Expr) : List Matcher :=
  (n.selector?.map Selector.braced).getD []

/-- Adds the matchers in the braces of a node to those found so far. -/
def collect (n : Expr) (_ : List Expr) : StateM (List Matcher) Unit :=
  modifyGet fun found => ((), found ++ n.braced)

/-- The matchers that stand in braces, collected by a walk. -/
def conditions (e : Expr) : List Matcher :=
  ((e.inspect collect []).run []).2

theorem run_collect (entries : List (Expr × List Expr)) (found : List Matcher) :
    ((entries.forM fun (n, ancestors) => n.collect ancestors).run found).2 =
      found ++ (entries.map Prod.fst).flatMap braced := by
  induction entries generalizing found with
  | nil => exact (List.append_nil found).symm
  | cons entry entries ih =>
    rw [List.map_cons, List.flatMap_cons, ← List.append_assoc]
    exact ih (found ++ entry.1.braced)

theorem conditions_eq_nodes (e : Expr) : e.conditions = e.nodes.flatMap braced := by
  rw [conditions, inspect_eq_forM, run_collect, List.nil_append, nodes]

theorem mem_nodes_iff {e n : Expr} : n ∈ e.nodes ↔ e.Reaches n := by
  rw [nodes_eq, List.mem_cons, List.mem_flatMap, reaches_iff, eq_comm]
  refine or_congr_right (exists_congr fun child => and_congr_right fun member => ?_)
  exact mem_nodes_iff
  termination_by sizeOf e
  decreasing_by exact sizeOf_lt_of_mem_children member

theorem conditions_eq (e : Expr) :
    e.conditions = e.braced ++ e.children.flatMap conditions := by
  have below : conditions = fun child => child.nodes.flatMap braced := funext conditions_eq_nodes
  rw [conditions_eq_nodes, nodes_eq, List.flatMap_cons, List.flatMap_assoc, below]

theorem braced_modify (e : Expr) (modifiers : Modifiers) (last : Text.Span) :
    (e.modify modifiers last).braced = e.braced := by
  cases e <;> rfl

/-- A node that is no selector has the conditions of its parts. -/
theorem conditions_of_children {e : Expr} (noSelector : e.selector? = none) :
    e.conditions = e.children.flatMap conditions := by
  rw [conditions_eq, braced, noSelector]
  rfl

end Expr

namespace Token

/-- Only a name can be the label of a comparison. -/
theorem comparisons_skip {t : Token} (other : t.kind ∉ [.identifier, .leftBrace, .rightBrace])
    (depth : Nat) (rest : List Token) : comparisons depth (t :: rest) = comparisons depth rest := by
  have none : comparison? (t :: rest) = none := by
    unfold comparison?
    split <;> simp_all
  rw [comparisons, none]
  cases kind : t.kind <;> simp_all

theorem comparisons_cons {label symbol value : Token} {op : MatchOp}
    (isLabel : label.kind = .identifier) (isSymbol : MatchOp.ofKind? symbol.kind = some op)
    (isValue : value.kind = .string) (depth : Nat) (rest : List Token) :
    comparisons (depth + 1) (label :: symbol :: value :: rest) =
      ⟨label.text, op, Literal.Quoted.read value.text⟩ :: comparisons (depth + 1) rest := by
  -- Neither the operator nor the value can be the label of another comparison.
  have found : comparison? (label :: symbol :: value :: rest) =
      some ⟨label.text, op, Literal.Quoted.read value.text⟩ := by
    simp [comparison?, isLabel, isSymbol, isValue]
  have skipSymbol : symbol.kind ∉ [.identifier, .leftBrace, .rightBrace] := by
    cases kind : symbol.kind <;> simp_all [MatchOp.ofKind?]
  have skipValue : value.kind ∉ [.identifier, .leftBrace, .rightBrace] := by simp [isValue]
  have behind : comparisons (depth + 1) (symbol :: value :: rest) = comparisons (depth + 1) rest := by
    rw [comparisons_skip skipSymbol, comparisons_skip skipValue]
  rw [comparisons, found, behind, isLabel]
  rfl

end Token

namespace Grammar

open QueryLint.Parser
open Token (comparisons)

-- A comparison is three tokens long, so what the tokens show might depend on what follows them. It
-- does not: a phrase ends outside of braces, where nothing is a comparison.
/-- The tokens have these matchers in braces, whatever follows. -/
def Shows (ts : List Token) (found : List Matcher) : Prop :=
  ∀ rest, comparisons 0 (ts ++ rest) = found.map Matcher.comparison ++ comparisons 0 rest

theorem Shows.nil : Shows [] [] :=
  fun _ => rfl

theorem Shows.append {front back : List Token} {first second : List Matcher}
    (showsFront : Shows front first) (showsBack : Shows back second) :
    Shows (front ++ back) (first ++ second) := by
  intro rest
  rw [List.append_assoc, showsFront, showsBack, List.map_append, List.append_assoc]

theorem Shows.cons {t : Token} {ts : List Token} {found : List Matcher}
    (notOpening : t.kind ≠ .leftBrace) (shown : Shows ts found) : Shows (t :: ts) found := by
  intro rest
  rw [List.cons_append, comparisons, shown rest]
  cases kind : t.kind <;> simp_all

theorem AllPlain.shows {ts : List Token} (plain : AllPlain ts) : Shows ts [] := by
  induction ts with
  | nil => exact .nil
  | cons t ts ih =>
    have isPlain := plain t (by simp)
    have notOpening : t.kind ≠ .leftBrace := by
      intro kind
      simp [Grammar.isPlain, kind] at isPlain
    exact .cons notOpening (ih (AllPlain.cons_iff.mp plain).2)

theorem AllPlain.shows_append {front ts : List Token} {found : List Matcher}
    (plain : AllPlain front) (shown : Shows ts found) : Shows (front ++ ts) found :=
  plain.shows.append shown

theorem Shows.append_plain {ts back : List Token} {found : List Matcher} (shown : Shows ts found)
    (plain : AllPlain back) : Shows (ts ++ back) found := by
  simpa using shown.append plain.shows

theorem Shows.brackets {opening close : Token} {ts : List Token}
    (isOpening : opening.kind = .leftBracket) (plain : AllPlain ts)
    (isClose : close.kind = .rightBracket) : Shows (opening :: (ts ++ [close])) [] := by
  have last : Shows [close] [] := .cons (by simp [isClose]) .nil
  exact .cons (by simp [isOpening]) (plain.shows.append last)

theorem Suffix.shows {e e' : Expr} {used : List Token} (suffix : Suffix e used e') :
    Shows used [] := by
  cases suffix with
  | @range opening length close _ _ isOpening isLength isClose =>
    have inner : AllPlain [length] := by simp [isLength.isPlain]
    exact .brackets isOpening inner isClose
  | @subquery opening length colon close step _ _ _ isOpening isLength isColon isStep isClose =>
    have inner : AllPlain (length :: colon :: step) := by
      simp [isLength.isPlain, isPlain_of_kind isColon (by decide), isStep.allPlain]
    exact .brackets isOpening inner isClose
  | offset isOffset isSign isLength =>
    apply AllPlain.shows
    simp [isPlain_of_kind (kind_of_isWord isOffset) (by decide), isSign.allPlain, isLength.isPlain]
  | pinned isMark isInstant =>
    apply AllPlain.shows
    simp [isPlain_of_kind isMark (by decide), isInstant.allPlain]

theorem string_ok {t : Token} {value : String} (read : string t = .ok value) :
    Literal.Quoted.read t.text = .ok value := by
  rw [string] at read
  split at read
  · next decoded =>
    cases read
    exact decoded
  · cases read

theorem Condition.comparisons_eq {used : List Token} {m : Matcher} (condition : Condition used m)
    (depth : Nat) (rest : List Token) :
    comparisons (depth + 1) (used ++ rest) = m.comparison :: comparisons (depth + 1) rest := by
  cases condition with
  | compare isLabel isSymbol isValue read =>
    have front := Token.comparisons_cons isLabel isSymbol isValue depth rest
    rw [string_ok read] at front
    exact front

theorem Listed.comparisons_eq {used : List Token} {found : List Matcher}
    (listed : Listed Condition used found) (depth : Nat) (rest : List Token) :
    comparisons (depth + 1) (used ++ rest) =
      found.map Matcher.comparison ++ comparisons (depth + 1) rest := by
  induction listed with
  | nil => rfl
  | last condition => exact condition.comparisons_eq depth rest
  | more condition isComma _ ih =>
    rw [List.append_assoc, condition.comparisons_eq, List.cons_append,
      Token.comparisons_skip (by simp [isComma]), ih]
    rfl

theorem Braces.shows {used : List Token} {opening close : Token} {found : List Matcher}
    (braces : Braces used opening close found) : Shows used found := by
  intro rest
  cases braces with
  | listed isOpening listed isClose =>
    -- Inside, one brace is open; behind the closing one, none is.
    rw [List.cons_append, comparisons, isOpening, List.append_assoc, listed.comparisons_eq,
      List.singleton_append, comparisons, isClose]

/-- Neither a range, a subquery nor a modifier changes the conditions. -/
theorem Suffix.conditions_eq {e e' : Expr} {used : List Token} (suffix : Suffix e used e') :
    e'.conditions = e.conditions := by
  cases suffix with
  | range =>
    rw [Expr.conditions_eq, Expr.conditions_eq (.vector _)]
    rfl
  | subquery =>
    rw [Expr.conditions_of_children rfl]
    exact List.append_nil _
  | offset | pinned =>
    rw [Expr.conditions_eq, Expr.conditions_eq e, Expr.children_modify, Expr.braced_modify]

theorem Suffixes.shows {next : Option Token} {e e' : Expr} {used : List Token}
    (suffixes : Suffixes next e used e') : Shows used [] ∧ e'.conditions = e.conditions := by
  induction suffixes with
  | nil => exact ⟨.nil, rfl⟩
  | cons suffix _ ih => exact ⟨suffix.shows.append ih.1, ih.2.trans suffix.conditions_eq⟩

theorem conditions_finishSelector [Pattern.Engine] {name : Option String} {found : List Matcher}
    {span : Text.Span} {e : Expr} (built : finishSelector name found span = .ok e) :
    e.conditions = if name.isSome then found.tail else found := by
  obtain ⟨rfl, -⟩ := finishSelector_ok built
  rw [Expr.conditions_eq]
  exact List.append_nil _

/-- A node over parts that stand among its tokens. -/
theorem Shows.node {ts : List Token} {e : Expr} {parts : List Expr}
    (shown : Shows ts (parts.flatMap Expr.conditions)) (same : e.children = parts)
    (noSelector : e.selector? = none) : Shows ts ([e].flatMap Expr.conditions) := by
  rw [List.flatMap_singleton, Expr.conditions_of_children noSelector, same]
  exact shown

/-- The trees of a phrase have the conditions that stand in the braces of its tokens. -/
theorem Derives.shows [Pattern.Engine] {phrase : Phrase} {used : List Token} {next : Option Token}
    (derived : Derives phrase used next) : Shows used (phrase.roots.flatMap Expr.conditions) := by
  induction derived with
  | expr _ _ ih | first _ ih | lastArgument _ ih => exact ih
  | @operator _ _ t lhs rhs _ _ _ left flag clause right _ _ isOperator _ isFlag isClause _ built
      ihLhs ihRhs =>
    obtain ⟨rfl, -⟩ := buildBinary_ok built
    have middle : AllPlain (t :: (flag ++ clause)) := by
      simp [isPlain_of_operator isOperator, isFlag.allPlain, isClause.allPlain]
    have parts : Shows (left ++ t :: (flag ++ clause ++ right)) ([lhs, rhs].flatMap Expr.conditions) := by
      simpa [Phrase.roots] using ihLhs.append (middle.shows_append ihRhs)
    exact parts.node rfl rfl
  | @signed _ sign _ _ used _ isSign _ built ih =>
    have front : AllPlain [sign] := by simp [isPlain_of_sign isSign]
    rcases buildUnary_ok built with ⟨value, span, value', rfl, rfl⟩ | ⟨rfl, -, -⟩
    · -- A sign and a number are one leaf, and neither has conditions.
      have none : [Expr.number value span].flatMap Expr.conditions = [] := by
        rw [List.flatMap_singleton, Expr.conditions_of_children rfl]
        rfl
      rw [Phrase.roots, none] at ih
      have leaf : Shows (sign :: used) ([].flatMap Expr.conditions) := front.shows_append ih
      exact leaf.node rfl rfl
    · exact (front.shows_append ih).node rfl rfl
  | suffixed _ suffixes ih =>
    obtain ⟨silent, same⟩ := suffixes.shows
    simpa [Phrase.roots, same] using ih.append silent
  | @number t _ _ kind | @numberWord t _ _ kind | @string t _ _ kind =>
    have leaf : Shows [t] ([].flatMap Expr.conditions) :=
      AllPlain.shows (by simp [isPlain_of_kind kind (by decide)])
    exact leaf.node rfl rfl
  | @paren opening close _ _ _ isOpening _ isClose ih =>
    have front : AllPlain [opening] := by simp [isPlain_of_kind isOpening (by decide)]
    have back : AllPlain [close] := by simp [isPlain_of_kind isClose (by decide)]
    exact (front.shows_append (ih.append_plain back)).node rfl rfl
  | braces isBraces built =>
    rw [Phrase.roots, List.flatMap_singleton, conditions_finishSelector built]
    exact isBraces.shows
  | metric isMetric _ built =>
    rw [Phrase.roots, List.flatMap_singleton, conditions_finishSelector built]
    exact AllPlain.shows (by simp [isPlain_of_kind isMetric.kind (by decide)])
  | @metricBraces t _ _ _ _ _ _ isMetric isBraces built =>
    have front : AllPlain [t] := by simp [isPlain_of_kind isMetric.kind (by decide)]
    rw [Phrase.roots, List.flatMap_singleton, conditions_finishSelector built]
    exact front.shows_append isBraces.shows
  | @call t opening close _ _ _ _ _ isName _ isOpening _ _ isClose built ih =>
    obtain ⟨rfl, -, -⟩ := buildCall_ok built
    have front : AllPlain [t, opening] := by
      simp [isPlain_of_kind isName.kind (by decide), isPlain_of_kind isOpening (by decide)]
    have back : AllPlain [close] := by simp [isPlain_of_kind isClose (by decide)]
    exact (front.shows_append (ih.append_plain back)).node rfl rfl
  | @aggregateLeading t opening close _ _ _ _ _ clause used _ isName _ isClause isOpening _ isClose
      built ih =>
    obtain ⟨param, body, rfl, rfl, -⟩ := buildAggregate_ok built
    have front : AllPlain (t :: (clause ++ [opening])) := by
      simp [isPlain_of_kind isName.kind (by decide), isClause.allPlain,
        isPlain_of_kind isOpening (by decide)]
    have back : AllPlain [close] := by simp [isPlain_of_kind isClose (by decide)]
    have parts : Shows (t :: (clause ++ opening :: (used ++ [close])))
        ((param.toList ++ [body]).flatMap Expr.conditions) := by
      simpa [Phrase.roots] using front.shows_append (ih.append_plain back)
    exact parts.node rfl rfl
  | @aggregate t opening close _ _ _ _ _ used clause _ isName _ isOpening _ isClose trailing built
      ih =>
    obtain ⟨param, body, rfl, rfl, -⟩ := buildAggregate_ok built
    have front : AllPlain [t, opening] := by
      simp [isPlain_of_kind isName.kind (by decide), isPlain_of_kind isOpening (by decide)]
    have back : AllPlain (close :: clause) := by
      simp [isPlain_of_kind isClose (by decide), trailing.allPlain]
    exact (front.shows_append (ih.append_plain back)).node rfl rfl
  | noArguments => exact .nil
  | @moreArguments comma _ _ _ _ _ _ isComma _ ihFirst ihMore =>
    have front : AllPlain [comma] := by simp [isPlain_of_kind isComma (by decide)]
    simpa [Phrase.roots] using ihFirst.append (front.shows_append ihMore)

/-- A parsed tree has the conditions of its tokens. -/
theorem comparisons_eq_conditions [Pattern.Engine] {source : String} {root : Expr}
    (parsed : Expr.parse source = .ok root) :
    ∃ tokens, Token.tokenize source = .ok tokens ∧
      comparisons 0 tokens = root.conditions.map Matcher.comparison := by
  obtain ⟨tokens, clean, derived⟩ := parse_sound parsed
  refine ⟨_, Token.tokenize_eq_ok clean, ?_⟩
  rw [derived.shows, Phrase.roots, List.flatMap_singleton]
  exact List.append_nil _

/-- A selector with a name has the matcher of the name in front. -/
def NameFirst (s : Selector) : Prop :=
  s.name.isSome = true → ∃ m ∈ s.matchers.head?, m.isMetricName = true

variable [Pattern.Engine]

/-- What finishing a selector says of it. -/
structure Finished (s : Selector) : Prop where
  nameFirst : NameFirst s
  judged : ∀ m ∈ s.matchers, ∃ flag, acceptsEmpty m = .ok flag

theorem Suffixes.finished {next : Option Token} {e e' : Expr} {used : List Token}
    (suffixes : Suffixes next e used e') (before : ∀ s ∈ e.selector?, Finished s) :
    ∀ s ∈ e'.selector?, Finished s := by
  induction suffixes with
  | nil => exact before
  | cons suffix _ ih =>
    refine ih fun s isSelector => ?_
    obtain ⟨earlier, isEarlier, matchers, name, -⟩ := suffix.selector?_eq isSelector
    have finished := before earlier isEarlier
    constructor
    · rw [NameFirst, matchers, name]
      exact finished.nameFirst
    · rw [matchers]
      exact finished.judged

theorem Derives.finished {phrase : Phrase} {used : List Token} {next : Option Token}
    (derived : Derives phrase used next) :
    ∀ e ∈ phrase.roots, ∀ s ∈ e.selector?, Finished s := by
  induction derived with
  | expr _ _ ih | first _ ih | lastArgument _ ih => exact ih
  | operator _ _ _ _ _ _ built =>
    obtain ⟨rfl, -⟩ := buildBinary_ok built
    simp [Phrase.roots, Expr.selector?]
  | signed _ _ built =>
    rcases buildUnary_ok built with ⟨value, span, value', rfl, rfl⟩ | ⟨rfl, -, -⟩ <;>
      simp [Phrase.roots, Expr.selector?]
  | suffixed _ suffixes ih =>
    simp only [Phrase.roots, List.forall_mem_singleton] at ih ⊢
    exact suffixes.finished ih
  | number | numberWord | string | paren => simp [Phrase.roots, Expr.selector?]
  | braces _ built | metric _ _ built | metricBraces _ _ built =>
    have judged := finishSelector_judged built
    obtain ⟨rfl, -⟩ := finishSelector_ok built
    simp only [Phrase.roots, List.forall_mem_singleton, Expr.selector?, Option.mem_some_iff, forall_eq']
    exact ⟨by simp [NameFirst, nameMatcher, Matcher.isMetricName], judged⟩
  | call _ _ _ _ _ _ built =>
    obtain ⟨rfl, -, -⟩ := buildCall_ok built
    simp [Phrase.roots, Expr.selector?]
  | aggregateLeading _ _ _ _ _ _ built | aggregate _ _ _ _ _ _ built =>
    obtain ⟨param, body, rfl, rfl, -⟩ := buildAggregate_ok built
    simp [Phrase.roots, Expr.selector?]
  | noArguments => simp [Phrase.roots]
  | moreArguments _ _ _ ihFirst ihMore =>
    simp only [Phrase.roots, List.forall_mem_singleton, List.forall_mem_cons] at ihFirst ihMore ⊢
    exact ⟨ihFirst, ihMore⟩

theorem parse_finished {source : String} {root n : Expr} (parsed : Expr.parse source = .ok root)
    (reaches : root.Reaches n) : ∀ s ∈ n.selector?, Finished s := by
  obtain ⟨tokens, -, derived⟩ := parse_sound parsed
  -- Every node is the root of a phrase of its own.
  obtain ⟨_, _, _, _, _, alone⟩ := derived.stretches root (by simp [Phrase.roots]) n reaches
  exact alone.finished n (by simp [Phrase.roots])

theorem parse_nameFirst {source : String} {root : Expr} (parsed : Expr.parse source = .ok root)
    {n : Expr} (member : n ∈ root.nodes) : ∀ s ∈ n.selector?, NameFirst s :=
  fun s isSelector => (parse_finished parsed (Expr.mem_nodes_iff.mp member) s isSelector).nameFirst

end Grammar

end QueryLint
