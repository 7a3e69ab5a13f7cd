import Mathlib
import QueryLint.Proofs.Expr.Nodes

/-! Types of parsed trees.

The parser checks types where it builds a node, after the parts of the node were built, so a rule
holds of a whole tree because no node is built without its check. `Expr.WellTyped` collects the
rules of every kind of node; `parse_wellTyped` says that every node of a parsed tree obeys them.
-/

set_option autoImplicit false

namespace QueryLint

section

variable [Pattern.Engine]

/-- Whether a matcher turns an absent label, which counts as an empty value, away. A pattern has to
match the whole value. -/
def Matcher.RejectsEmpty (m : Matcher) : Prop :=
  match m.op with
  | .equal => m.value ≠ ""
  | .notEqual => m.value = ""
  | .regex => ∃ test, Pattern.Engine.compile ("^(?:" ++ m.value ++ ")$") = .ok test ∧ test "" = false
  | .notRegex => ∃ test, Pattern.Engine.compile ("^(?:" ++ m.value ++ ")$") = .ok test ∧ test "" = true

theorem Parser.rejectsEmpty_of_acceptsEmpty {m : Matcher} (judged : acceptsEmpty m = .ok false) :
    m.RejectsEmpty := by
  unfold Matcher.RejectsEmpty
  cases op : m.op with
  | equal | notEqual => simpa [acceptsEmpty, op] using judged
  | regex =>
    obtain ⟨test, compiled, rejects⟩ := acceptsEmpty_pattern (.inl op) judged
    exact ⟨test, compiled, by simpa [op] using rejects⟩
  | notRegex =>
    have different : (MatchOp.notRegex == MatchOp.regex) = false := rfl
    obtain ⟨test, compiled, rejects⟩ := acceptsEmpty_pattern (.inr op) judged
    exact ⟨test, compiled, by simpa [op, different] using rejects⟩

/-- A selector that does not select every series there is. -/
def Selector.Selective (s : Selector) : Prop :=
  ∃ m ∈ s.matchers, m.RejectsEmpty

end

/-- The rules of a binary node. -/
structure BinaryRules (op : BinaryOp) (left right : ValueType) (returnsBool : Bool)
    (matching : Option Matching) : Prop extends
    Parser.BinaryFits op left right returnsBool matching where
  set_oneToOne : op.isSetOperator = true → ∀ m ∈ matching, m.card = .oneToOne
  oneToOne_alone : ∀ m ∈ matching, m.card = .oneToOne → m.included = []

/-- The rules of a call: its function is in the table, the number of arguments is right and each of
them has a type that is taken at its place. -/
structure CallRules (name : String) (args : List Expr) (type : ValueType)
    (function : Signature) : Prop where
  listed : Signature.lookup? name = some function
  named : function.name = name
  returns : type = function.returnType
  enough : function.minArgs ≤ args.length
  notTooMany : ∀ most ∈ function.maxArgs?, args.length ≤ most
  typed : ∀ i arg, args[i]? = some arg →
    ∃ expected, function.argType? i = some expected ∧ expected.accepts arg.valueType = true

/-- The rules of a node, given its parts. -/
def Expr.WellTyped [Pattern.Engine] : Expr → Prop
  | .number .. | .string .. | .paren .. => True
  | .vector selector => selector.Selective
  | .matrix selector _ _ => selector.Selective
  | .subquery body _ _ _ _ => body.valueType = .vector
  | .unary _ body _ => body.valueType.isNumeric = true
  | .binary op lhs rhs returnsBool matching _ =>
    BinaryRules op lhs.valueType rhs.valueType returnsBool matching
  | .call name args type _ => ∃ function, CallRules name args type function
  | .aggregate op param body _ _ =>
    body.valueType.isNumeric = true ∧
      Option.Rel (fun expected given => expected.accepts given.valueType = true) op.paramType? param

namespace Signature

theorem name_of_lookup? {name : String} {function : Signature}
    (found : lookup? name = some function) : function.name = name := by
  simpa using List.find?_some found

/-- A repeated argument has a type: no function of the table repeats nothing. -/
theorem argTypes_ne_nil {function : Signature} (member : function ∈ all)
    (variadic : function.variadic = true) : function.argTypes ≠ [] := by
  have table : ∀ function ∈ all, function.variadic = true → function.argTypes ≠ [] := by decide
  exact table function member variadic

theorem argType?_isSome {function : Signature} (member : function ∈ all) {count index : Nat}
    (counted : function.acceptsCount count = true) (below : index < count) :
    ∃ expected, function.argType? index = some expected := by
  rw [← Option.isSome_iff_exists, argType?, Option.isSome_or]
  by_cases listed : index < function.argTypes.length
  · simp [listed]
  · simp only [acceptsCount, maxArgs?, Bool.and_eq_true, decide_eq_true_eq] at counted
    cases variadic : function.variadic with
    | true => simp [argTypes_ne_nil member variadic]
    | false =>
      have most : count ≤ function.argTypes.length := by simpa [variadic] using counted.2
      omega

end Signature

namespace Grammar

open QueryLint.Parser

theorem cardinalityWord?_ne {t : Token} {card : Cardinality}
    (found : cardinalityWord? t = some card) : card ≠ .oneToOne := by
  simp only [either?] at found
  split at found
  · cases found
    simp
  · split at found
    · cases found
      simp
    · cases found

theorem MatchingClause.rules {op : BinaryOp} {next : Option Token} {used : List Token}
    {matching : Option Matching} (clause : MatchingClause op next used matching) :
    (op.isSetOperator = true → ∀ m ∈ matching, m.card = .oneToOne) ∧
      ∀ m ∈ matching, m.card = .oneToOne → m.included = [] := by
  cases clause with
  | absent => simp
  | plain => simp
  | grouped _ _ isSide notSet _ =>
    -- The parser turns a side with many series away at a set operator.
    simp [notSet, cardinalityWord?_ne isSide]

variable [Pattern.Engine]

theorem wellTyped_call {function : Signature} {name : String} {args : List Expr} {span : Text.Span}
    {e : Expr} (found : Signature.lookup? name = some function)
    (built : buildCall function args span = .ok e) : e.WellTyped := by
  obtain ⟨rfl, counted, checked⟩ := buildCall_ok built
  have named := Signature.name_of_lookup? found
  have bounds := counted
  simp only [Signature.acceptsCount, Bool.and_eq_true, decide_eq_true_eq, Option.all_eq_true] at bounds
  refine ⟨function, named ▸ found, rfl, rfl, bounds.1, bounds.2, ?_⟩
  intro i arg given
  have below : i < args.length := (List.getElem?_eq_some_iff.mp given).1
  obtain ⟨expected, typed⟩ :=
    Signature.argType?_isSome (List.mem_of_find?_eq_some found) counted below
  exact ⟨expected, typed, checkArguments_ok checked given (by simpa using typed)⟩

theorem wellTyped_selector {name : Option String} {found : List Matcher} {span : Text.Span}
    {e : Expr} (built : finishSelector name found span = .ok e) :
    e.WellTyped ∧ e.children = [] := by
  obtain ⟨rfl, m, member, rejects⟩ := finishSelector_ok built
  exact ⟨⟨m, member, rejectsEmpty_of_acceptsEmpty rejects⟩, rfl⟩

theorem wellTyped_modify {e : Expr} (wellTyped : e.WellTyped) (modifiers : Modifiers)
    (last : Text.Span) : (e.modify modifiers last).WellTyped := by
  cases e <;> exact wellTyped

/-- All nodes of a tree are well typed. -/
def AllWellTyped (e : Expr) : Prop :=
  ∀ n, e.Reaches n → n.WellTyped

theorem allWellTyped_of_children {e : Expr} (own : e.WellTyped)
    (below : ∀ child ∈ e.children, AllWellTyped child) : AllWellTyped e :=
  Expr.forall_reaches own below

theorem AllWellTyped.own {e : Expr} (all : AllWellTyped e) : e.WellTyped :=
  all e (Expr.reaches_iff.mpr (.inl rfl))

theorem AllWellTyped.child {e child : Expr} (all : AllWellTyped e) (member : child ∈ e.children) :
    AllWellTyped child :=
  fun n reached => all n (Expr.reaches_iff.mpr (.inr ⟨child, member, reached⟩))

theorem Suffix.allWellTyped {e e' : Expr} {used : List Token} (suffix : Suffix e used e')
    (before : AllWellTyped e) : AllWellTyped e' := by
  cases suffix with
  | range => exact allWellTyped_of_children before.own (by simp [Expr.children])
  | subquery _ _ _ _ _ isVector =>
    exact allWellTyped_of_children isVector (by simpa [Expr.children] using before)
  | offset | pinned =>
    refine allWellTyped_of_children (wellTyped_modify before.own _ _) ?_
    rw [Expr.children_modify]
    exact fun child member => before.child member

theorem Suffixes.allWellTyped {next : Option Token} {e e' : Expr} {used : List Token}
    (suffixes : Suffixes next e used e') (before : AllWellTyped e) : AllWellTyped e' := by
  induction suffixes with
  | nil => exact before
  | cons suffix _ ih => exact ih (suffix.allWellTyped before)

theorem Derives.allWellTyped {phrase : Phrase} {used : List Token} {next : Option Token}
    (derived : Derives phrase used next) : ∀ e ∈ phrase.roots, AllWellTyped e := by
  induction derived with
  | expr _ _ ih | first _ ih | lastArgument _ ih => exact ih
  | operator _ _ _ _ isClause _ built ihLhs ihRhs =>
    simp only [Phrase.roots, List.forall_mem_singleton] at ihLhs ihRhs ⊢
    obtain ⟨rfl, fits⟩ := buildBinary_ok built
    obtain ⟨setRule, aloneRule⟩ := isClause.rules
    refine allWellTyped_of_children ⟨fits, setRule, aloneRule⟩ ?_
    simp [Expr.children, ihLhs, ihRhs]
  | signed _ _ built ih =>
    simp only [Phrase.roots, List.forall_mem_singleton] at ih ⊢
    rcases buildUnary_ok built with ⟨value, span, value', rfl, rfl⟩ | ⟨rfl, numeric, -⟩
    · exact allWellTyped_of_children trivial (by simp [Expr.children])
    · exact allWellTyped_of_children numeric (by simpa [Expr.children] using ih)
  | suffixed _ suffixes ih =>
    simp only [Phrase.roots, List.forall_mem_singleton] at ih ⊢
    exact suffixes.allWellTyped ih
  | number | numberWord | string =>
    simp only [Phrase.roots, List.forall_mem_singleton]
    exact allWellTyped_of_children trivial (by simp [Expr.children])
  | paren _ _ _ ih =>
    simp only [Phrase.roots, List.forall_mem_singleton] at ih ⊢
    exact allWellTyped_of_children trivial (by simpa [Expr.children] using ih)
  | braces _ finished | metric _ _ finished | metricBraces _ _ finished =>
    simp only [Phrase.roots, List.forall_mem_singleton]
    obtain ⟨own, leaf⟩ := wellTyped_selector finished
    exact allWellTyped_of_children own (by simp [leaf])
  | call _ _ _ isFunction _ _ built ih =>
    simp only [Phrase.roots, List.forall_mem_singleton] at ih ⊢
    -- The function is one of the table, so its repeated argument has a type.
    have own := wellTyped_call isFunction built
    obtain ⟨rfl, -, -⟩ := buildCall_ok built
    exact allWellTyped_of_children own ih
  | aggregateLeading _ _ _ _ _ _ built ih | aggregate _ _ _ _ _ _ built ih =>
    simp only [Phrase.roots, List.forall_mem_singleton] at ih ⊢
    obtain ⟨param, body, rfl, rfl, numeric, typed⟩ := buildAggregate_ok built
    exact allWellTyped_of_children ⟨numeric, typed⟩ ih
  | noArguments => simp [Phrase.roots]
  | moreArguments _ _ _ ihFirst ihMore =>
    simp only [Phrase.roots, List.forall_mem_singleton, List.forall_mem_cons] at ihFirst ihMore ⊢
    exact ⟨ihFirst, ihMore⟩

end Grammar

/-- Every node of a parsed tree obeys the rules of its kind. -/
theorem Expr.parse_wellTyped [Pattern.Engine] {source : String} {root : Expr}
    (parsed : Expr.parse source = .ok root) : ∀ n, root.Reaches n → n.WellTyped := by
  obtain ⟨tokens, -, derived⟩ := Grammar.parse_sound parsed
  exact derived.allWellTyped root (by simp [Grammar.Phrase.roots])

theorem Expr.parse_wellTyped_comparison :
    let _ := Pattern.Engine.ofAnswers []
    ∃ root, Expr.parse "sum(a) == bool on (b) c" = .ok root ∧ ∀ n, root.Reaches n → n.WellTyped := by
  intro _
  have reads : (Expr.parse "sum(a) == bool on (b) c").isOk = true := by cbv
  obtain ⟨root, parsed⟩ := Grammar.exists_of_isOk reads
  exact ⟨root, parsed, parse_wellTyped parsed⟩

end QueryLint
