import Mathlib.Logic.Relation
import QueryLint.Proofs.Grammar.Sound

/-! The nodes of a tree, and what the parser builds them from.

A node is reached from the root through children. Every builder of the parser either fails or
returns one node over the given parts; what it checked on the way is said here once.
-/

set_option autoImplicit false

namespace QueryLint

namespace Expr

/-- The nodes below a root, and the root itself. -/
def Reaches (root node : Expr) : Prop :=
  Relation.ReflTransGen (fun parent child => child ∈ parent.children) root node

theorem reaches_iff {root node : Expr} :
    root.Reaches node ↔ root = node ∨ ∃ child ∈ root.children, child.Reaches node :=
  Relation.ReflTransGen.cases_head_iff

/-- What holds of a node and of all nodes below its children holds of all nodes below it. -/
theorem forall_reaches {P : Expr → Prop} {root : Expr} (own : P root)
    (below : ∀ child ∈ root.children, ∀ node, child.Reaches node → P node) :
    ∀ node, root.Reaches node → P node := by
  intro node reached
  rcases reaches_iff.mp reached with rfl | ⟨child, member, reached⟩
  · exact own
  · exact below child member node reached

@[simp] theorem span_modify {e : Expr} {modifiers : Modifiers} {found : Modifiers} {last : Text.Span}
    (modifiable : e.modifiers? = some found) : (e.modify modifiers last).span = e.span.cover last := by
  cases e <;> simp_all [modifiers?, modify, span]

@[simp] theorem modifiers?_modify {e : Expr} {found : Modifiers} (modifiable : e.modifiers? = some found)
    (modifiers : Modifiers) (last : Text.Span) : (e.modify modifiers last).modifiers? = some modifiers := by
  cases e <;> simp_all [modifiers?, modify]

@[simp] theorem children_modify (e : Expr) (modifiers : Modifiers) (last : Text.Span) :
    (e.modify modifiers last).children = e.children := by
  cases e <;> rfl

/-- Modifiers leave the matchers of a selector alone and can only widen its span. -/
theorem selector?_modify {e : Expr} {modifiers : Modifiers} {last : Text.Span} {s : Selector}
    (found : (e.modify modifiers last).selector? = some s) :
    ∃ before, e.selector? = some before ∧ s.matchers = before.matchers ∧ s.name = before.name ∧
      ((e.span = before.span ∧ s.span = before.span.cover last) ∨ s.span = before.span) := by
  cases e with
  | vector selector =>
    cases found
    exact ⟨selector, rfl, rfl, rfl, .inl ⟨rfl, rfl⟩⟩
  | matrix selector window span =>
    cases found
    exact ⟨selector, rfl, rfl, rfl, .inr rfl⟩
  | _ => cases found

end Expr

theorem ValueType.isNumeric_iff {type : ValueType} :
    type.isNumeric = true ↔ type = .scalar ∨ type = .vector := by
  cases type <;> decide

theorem ValueType.eq_vector {type : ValueType} (numeric : type.isNumeric = true)
    (notScalar : type ≠ .scalar) : type = .vector := by
  cases type <;> simp_all [isNumeric]

namespace Parser

open Text (Span)
open Grammar (bind_ok)

section

variable [Pattern.Engine]

/-- A matcher with a pattern is judged by the pattern tied to both ends of the label. -/
theorem acceptsEmpty_pattern {m : Matcher} {flag : Bool}
    (hasPattern : m.op = .regex ∨ m.op = .notRegex) (judged : acceptsEmpty m = .ok flag) :
    ∃ test, Pattern.Engine.compile ("^(?:" ++ m.value ++ ")$") = .ok test ∧
      (test "" == (m.op == .regex)) = flag := by
  unfold acceptsEmpty at judged
  rcases hasPattern with op | op
  all_goals
    rw [op] at judged ⊢
    simp only at judged
    split at judged
    · next test compiled => exact ⟨test, compiled, Except.ok.inj judged⟩
    · cases judged

theorem acceptances_ok {ms : List Matcher} {accepted : List Bool}
    (answer : acceptances ms = .ok accepted) (rejected : accepted.all id = false) :
    ∃ m ∈ ms, acceptsEmpty m = .ok false := by
  induction ms generalizing accepted with
  | nil =>
    cases answer
    cases rejected
  | cons m ms ih =>
    rw [acceptances] at answer
    obtain ⟨flag, readFirst, answer⟩ := bind_ok answer
    obtain ⟨flags, readMore, answer⟩ := bind_ok answer
    cases answer
    cases flag with
    | false => exact ⟨m, by simp, readFirst⟩
    | true =>
      obtain ⟨m', member, rejects⟩ := ih readMore (by simpa using rejected)
      exact ⟨m', by simp [member], rejects⟩

theorem finishSelector_ok {name : Option String} {found : List Matcher} {span : Span} {e : Expr}
    (built : finishSelector name found span = .ok e) :
    e = .vector ⟨name, found, {}, span⟩ ∧ ∃ m ∈ found, acceptsEmpty m = .ok false := by
  rw [finishSelector] at built
  obtain ⟨accepted, readAll, built⟩ := bind_ok built
  split at built
  · cases built
  · next someRejects =>
    cases built
    exact ⟨rfl, acceptances_ok readAll (by simpa using someRejects)⟩

theorem finishSelector_single {m : Matcher} (rejects : acceptsEmpty m = .ok false) (name : Option String)
    (span : Span) : finishSelector name [m] span = .ok (.vector ⟨name, [m], {}, span⟩) := by
  have judged : acceptances [m] = .ok [false] := by
    rw [acceptances, rejects]
    rfl
  rw [finishSelector, judged]
  rfl

/-- One matcher that cannot be judged leaves the rest without an answer. -/
theorem acceptances_judged {ms : List Matcher} {accepted : List Bool}
    (answer : acceptances ms = .ok accepted) : ∀ m ∈ ms, ∃ flag, acceptsEmpty m = .ok flag := by
  induction ms generalizing accepted with
  | nil => simp
  | cons m ms ih =>
    rw [acceptances] at answer
    obtain ⟨flag, readFirst, answer⟩ := bind_ok answer
    obtain ⟨flags, readMore, -⟩ := bind_ok answer
    exact List.forall_mem_cons.mpr ⟨⟨flag, readFirst⟩, ih readMore⟩

theorem finishSelector_judged {name : Option String} {found : List Matcher} {span : Span} {e : Expr}
    (built : finishSelector name found span = .ok e) : ∀ m ∈ found, ∃ flag, acceptsEmpty m = .ok flag := by
  rw [finishSelector] at built
  obtain ⟨accepted, readAll, -⟩ := bind_ok built
  exact acceptances_judged readAll

end

theorem checkType_ok {e : Expr} {expected : ValueType} {role : ParseError.Role}
    (checked : checkType e expected role = .ok ()) : expected.accepts e.valueType = true := by
  rw [checkType] at checked
  split at checked
  · next accepted => exact accepted
  · cases checked

theorem checkArguments_ok {function : Signature} {index : Nat} {args : List Expr}
    (checked : checkArguments function index args = .ok ()) {i : Nat} {arg : Expr}
    {expected : ValueType} (given : args[i]? = some arg)
    (typed : function.argType? (index + i) = some expected) :
    expected.accepts arg.valueType = true := by
  induction args generalizing index i with
  | nil => cases given
  | cons first rest ih =>
    rw [checkArguments] at checked
    cases i with
    | zero =>
      cases given
      rw [Nat.add_zero] at typed
      rw [typed] at checked
      obtain ⟨_, checkedFirst, _⟩ := bind_ok checked
      exact checkType_ok checkedFirst
    | succ i =>
      -- An argument whose place has no type goes unchecked, and the others are checked all the same.
      have checkedRest : checkArguments function (index + 1) rest = .ok () := by
        split at checked
        · obtain ⟨_, _, checkedRest⟩ := bind_ok checked
          exact checkedRest
        · exact checked
      rw [← Nat.add_assoc, Nat.add_right_comm] at typed
      exact ih checkedRest given typed

theorem buildCall_ok {function : Signature} {args : List Expr} {span : Span} {e : Expr}
    (built : buildCall function args span = .ok e) :
    e = .call function.name args function.returnType span ∧
      function.acceptsCount args.length = true ∧ checkArguments function 0 args = .ok () := by
  rw [buildCall] at built
  split at built
  · next counted =>
    obtain ⟨_, checked, built⟩ := bind_ok built
    cases built
    exact ⟨rfl, counted, checked⟩
  · cases built

theorem buildAggregate_ok {op : AggregateOp} {args : List Expr} {grouping : Grouping} {span : Span}
    {e : Expr} (built : buildAggregate op args grouping span = .ok e) :
    ∃ param body, args = param.toList ++ [body] ∧ e = .aggregate op param body grouping span ∧
      body.valueType.isNumeric = true ∧
      Option.Rel (fun expected given => expected.accepts given.valueType = true) op.paramType? param := by
  unfold buildAggregate at built
  split at built
  · next expected param body typed =>
    obtain ⟨_, checkedParam, built⟩ := bind_ok built
    obtain ⟨_, checkedBody, built⟩ := bind_ok built
    cases built
    exact ⟨some param, body, rfl, rfl, checkType_ok checkedBody,
      typed ▸ .some (checkType_ok checkedParam)⟩
  · next body typed =>
    obtain ⟨_, checkedBody, built⟩ := bind_ok built
    cases built
    exact ⟨none, body, rfl, rfl, checkType_ok checkedBody, typed ▸ .none⟩
  · cases built

/-- What is checked of the operands of a binary node. -/
structure BinaryFits (op : BinaryOp) (left right : ValueType) (returnsBool : Bool)
    (matching : Option Matching) : Prop where
  left_numeric : left.isNumeric = true
  right_numeric : right.isNumeric = true
  set_vectors : op.isSetOperator = true → left = .vector ∧ right = .vector
  scalars_bool : op.isComparison = true → left = .scalar → right = .scalar → returnsBool = true
  bool_comparison : returnsBool = true → op.isComparison = true
  matched_vectors : matching.isSome = true → left = .vector ∧ right = .vector

theorem buildBinary_ok {op : BinaryOp} {opSpan : Span} {lhs rhs e : Expr} {returnsBool : Bool}
    {matching : Option Matching}
    (built : buildBinary op opSpan lhs rhs returnsBool matching = .ok e) :
    e = .binary op lhs rhs returnsBool matching (lhs.span.cover rhs.span) ∧
      BinaryFits op lhs.valueType rhs.valueType returnsBool matching := by
  simp only [buildBinary] at built
  split at built
  · cases built
  · next left =>
    split at built
    · cases built
    · next right =>
      split at built
      · cases built
      · next set =>
        split at built
        · cases built
        · next scalars =>
          split at built
          · cases built
          · next bool =>
            split at built
            · cases built
            · next matched =>
              cases built
              have leftNumeric : lhs.valueType.isNumeric = true := by simpa using left
              have rightNumeric : rhs.valueType.isNumeric = true := by simpa using right
              refine ⟨rfl, leftNumeric, rightNumeric, ?_, ?_, ?_, ?_⟩
              -- Only scalars are refused for a set operator: what else is numeric is a vector.
              · intro isSet
                simp only [isSet, Bool.true_and, Bool.or_eq_true, beq_iff_eq, not_or] at set
                exact ⟨ValueType.eq_vector leftNumeric set.1, ValueType.eq_vector rightNumeric set.2⟩
              · intro isComparison leftScalar rightScalar
                simpa [isComparison, leftScalar, rightScalar] using scalars
              · intro returns
                simpa [returns] using bool
              · intro isMatched
                simpa [isMatched] using matched

-- A sign in front of a number makes another number, and no unary node.
theorem buildUnary_ok {op : UnaryOp} {sign : Span} {body e : Expr}
    (built : buildUnary op sign body = .ok e) :
    (∃ value span value', body = .number value span ∧ e = .number value' (sign.cover span)) ∨
      (e = .unary op body (sign.cover body.span) ∧ body.valueType.isNumeric = true ∧
        ∀ value span, body ≠ .number value span) := by
  cases body with
  | number value span =>
    cases built
    exact .inl ⟨value, span, _, rfl, rfl⟩
  | _ =>
    simp only [buildUnary] at built
    split at built
    · next numeric =>
      cases built
      exact .inr ⟨rfl, numeric, by simp⟩
    · cases built

end Parser

end QueryLint
