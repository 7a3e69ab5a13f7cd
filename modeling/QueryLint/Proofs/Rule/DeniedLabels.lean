import QueryLint.Proofs.Expr.Walk
import QueryLint.Rule.DeniedLabels

/-! What the rule on denied labels finds.

The rule keeps the patterns that it has compiled. As long as each of them is what the engine makes of
its pattern, a check with the kept ones finds what a check finds that compiles every pattern anew;
`check_eq` says so for a whole tree and every engine.
-/

set_option autoImplicit false

namespace QueryLint

/-- The matchers of a node, each with its selector. -/
def Expr.ownMatchers (n : Expr) : List (Selector × Matcher) :=
  match n.selector? with
  | none => []
  | some selector => selector.matchers.map fun m => (selector, m)

theorem Expr.selector?_of_mem_ownMatchers {n : Expr} {pair : Selector × Matcher}
    (own : pair ∈ n.ownMatchers) : n.selector? = some pair.1 := by
  unfold ownMatchers at own
  split at own
  · cases own
  · next isSelector =>
    obtain ⟨m, -, rfl⟩ := List.mem_map.mp own
    exact isSelector

/-- The matchers of a tree in preorder, each with its selector. -/
def Expr.matchers (e : Expr) : List (Selector × Matcher) :=
  e.nodes.flatMap ownMatchers

namespace DeniedLabels

open Pattern.Engine (compile)

/-- Findings and those behind them, unless either fails. -/
def andThen (found more : Except RuleError (List Diagnostic)) : Except RuleError (List Diagnostic) := do
  let first ← found
  let others ← more
  pure (first ++ others)

theorem andThen_assoc (a b c : Except RuleError (List Diagnostic)) :
    andThen (andThen a b) c = andThen a (andThen b c) := by
  cases a <;> cases b <;> cases c <;> simp [andThen, bind, Except.bind, pure, Except.pure]

theorem andThen_nil (found : Except RuleError (List Diagnostic)) : andThen found (.ok []) = found := by
  cases found <;> simp [andThen, bind, Except.bind, pure, Except.pure]

variable [Pattern.Engine] (rules : LabelMap) (color : ColorMode)

/-- What one matcher gives when its pattern is compiled on the spot. -/
def finding (selector : Selector) (m : Matcher) : Except RuleError (List Diagnostic) :=
  if m.isMetricName then .ok []
  else match rules.get? m.label with
    | none => .ok []
    | some pattern =>
      match compile pattern with
      | .error report => .error (.invalidPattern pattern report)
      | .ok test =>
        .ok (if test m.value then [⟨.error, selector.span, message pattern, color⟩] else [])

/-- What matchers give one after the other, up to the first that fails. -/
def findings : List (Selector × Matcher) → Except RuleError (List Diagnostic)
  | [] => .ok []
  | (selector, m) :: rest => andThen (finding rules color selector m) (findings rest)

theorem findings_append (front back : List (Selector × Matcher)) :
    findings rules color (front ++ back) =
      andThen (findings rules color front) (findings rules color back) := by
  induction front with
  | nil => cases behind : findings rules color back <;> simp [findings, andThen, behind] <;> rfl
  | cons pair front ih => rw [List.cons_append, findings, findings, ih, andThen_assoc]

-- The invariant of a check. A state that keeps a wrong test for a pattern would give other findings
-- for every later matcher with that pattern.
/-- Every kept pattern is what the engine makes of it. -/
def Faithful (compiled : List (String × (String → Bool))) : Prop :=
  ∀ pattern test, compiled.lookup pattern = some test → compile pattern = .ok test

/-- From every faithful state, the check fails as `plain` does, or adds what `plain` finds and leaves
a faithful state. -/
def Follows (check : StateT State (Except RuleError) Unit)
    (plain : Except RuleError (List Diagnostic)) : Prop :=
  ∀ state, Faithful state.compiled →
    match plain with
    | .error error => check.run state = .error error
    | .ok found => ∃ compiled, Faithful compiled ∧
        check.run state = .ok ((), ⟨compiled, found.reverse ++ state.findings⟩)

variable {rules color}

theorem Follows.nothing : Follows (pure ()) (.ok []) :=
  fun state faithful => ⟨state.compiled, faithful, rfl⟩

theorem Follows.seq {first second : StateT State (Except RuleError) Unit}
    {plain more : Except RuleError (List Diagnostic)} (follows : Follows first plain)
    (followsMore : Follows second more) :
    Follows (first >>= fun _ => second) (andThen plain more) := by
  intro state faithful
  have run_seq : (first >>= fun _ => second).run state =
      first.run state >>= fun answer => second.run answer.2 := rfl
  have ran := follows state faithful
  cases plain with
  | error error => exact run_seq.trans (by rw [ran]; rfl)
  | ok found =>
    obtain ⟨compiled, kept, ran⟩ := ran
    -- The second check starts from what the first one kept and found.
    have ranMore := followsMore ⟨compiled, found.reverse ++ state.findings⟩ kept
    rw [ran] at run_seq
    cases more with
    | error error => exact run_seq.trans ranMore
    | ok others =>
      obtain ⟨compiled, kept, ranMore⟩ := ranMore
      refine ⟨compiled, kept, run_seq.trans (ranMore.trans ?_)⟩
      rw [List.reverse_append, List.append_assoc]

/-- What is found when nothing was kept or found before. -/
theorem Follows.result {walk : StateT State (Except RuleError) Unit}
    {plain : Except RuleError (List Diagnostic)} (follows : Follows walk plain) :
    (walk.run {} >>= fun (_, state) => pure state.findings.reverse) = plain := by
  have ran := follows {} (by simp [Faithful])
  cases plain with
  | error error =>
    rw [ran]
    rfl
  | ok found =>
    obtain ⟨compiled, -, ran⟩ := ran
    rw [ran, List.append_nil]
    exact congrArg Except.ok (List.reverse_reverse found)

theorem Follows.forM {α : Type} {check : α → StateT State (Except RuleError) Unit}
    {matchers : α → List (Selector × Matcher)}
    (each : ∀ a, Follows (check a) (findings rules color (matchers a))) (as : List α) :
    Follows (as.forM check) (findings rules color (as.flatMap matchers)) := by
  induction as with
  | nil => exact .nothing
  | cons a as ih =>
    rw [List.flatMap_cons, findings_append]
    exact (each a).seq ih

theorem Faithful.cons {compiled : List (String × (String → Bool))} {pattern : String}
    {test : String → Bool} (faithful : Faithful compiled) (made : compile pattern = .ok test) :
    Faithful ((pattern, test) :: compiled) := by
  intro pattern' test' found
  rw [List.lookup_cons] at found
  split at found
  · next same =>
    cases found
    rw [eq_of_beq same, made]
  · exact faithful pattern' test' found

/-- A pattern that the engine refuses was not kept, and fails the check. -/
theorem run_test_error {state : State} {pattern report : String}
    (faithful : Faithful state.compiled) (failed : compile pattern = .error report) :
    (test pattern).run state = .error (.invalidPattern pattern report) := by
  unfold test
  simp only [StateT.run_bind, StateT.run_get, pure_bind]
  cases kept : state.compiled.lookup pattern with
  | some made =>
    rw [faithful pattern made kept] at failed
    cases failed
  | none =>
    simp only [failed]
    rfl

/-- A pattern is tested as the engine says, kept or not. -/
theorem run_test_ok {state : State} {pattern : String} {made : String → Bool}
    (faithful : Faithful state.compiled) (compiles : compile pattern = .ok made) :
    ∃ compiled, Faithful compiled ∧
      (test pattern).run state = .ok (made, { state with compiled }) := by
  unfold test
  simp only [StateT.run_bind, StateT.run_get, pure_bind]
  cases kept : state.compiled.lookup pattern with
  | some found =>
    rw [faithful pattern found kept] at compiles
    cases compiles
    exact ⟨state.compiled, faithful, rfl⟩
  | none =>
    simp only [compiles]
    exact ⟨(pattern, made) :: state.compiled, faithful.cons compiles, rfl⟩

theorem Follows.test_error {pattern report : String}
    {next : (String → Bool) → StateT State (Except RuleError) Unit}
    (failed : compile pattern = .error report) :
    Follows (test pattern >>= next) (.error (.invalidPattern pattern report)) := by
  intro state faithful
  have run_bind : (test pattern >>= next).run state =
      (test pattern).run state >>= fun answer => (next answer.1).run answer.2 := rfl
  rw [run_test_error faithful failed] at run_bind
  exact run_bind

theorem Follows.test_ok {pattern : String} {made : String → Bool}
    {next : (String → Bool) → StateT State (Except RuleError) Unit}
    {plain : Except RuleError (List Diagnostic)} (compiles : compile pattern = .ok made)
    (follows : Follows (next made) plain) :
    Follows (test pattern >>= next) plain := by
  intro state faithful
  have run_bind : (test pattern >>= next).run state =
      (test pattern).run state >>= fun answer => (next answer.1).run answer.2 := rfl
  obtain ⟨compiled, kept, tested⟩ := run_test_ok faithful compiles
  rw [tested] at run_bind
  have ran := follows { state with compiled } kept
  cases plain with
  | error error => exact run_bind.trans ran
  | ok found =>
    obtain ⟨compiled, kept, ran⟩ := ran
    exact ⟨compiled, kept, run_bind.trans ran⟩

theorem checkMatcher_follows (selector : Selector) (m : Matcher) :
    Follows (checkMatcher rules color selector m) (finding rules color selector m) := by
  rw [checkMatcher, finding]
  by_cases isName : m.isMetricName = true
  · rw [if_pos isName, if_pos isName]
    exact .nothing
  · rw [if_neg isName, if_neg isName]
    cases rules.get? m.label with
    | none => exact .nothing
    | some pattern =>
      cases made : compile pattern with
      | error report =>
        simp only [made]
        exact .test_error made
      | ok test =>
        simp only [made]
        refine .test_ok made ?_
        by_cases matched : test m.value = true
        · rw [if_pos matched, if_pos matched]
          exact fun state faithful => ⟨state.compiled, faithful, rfl⟩
        · rw [if_neg matched, if_neg matched]
          exact .nothing

variable (rules color)

theorem visit_follows (n : Expr) :
    Follows
      (match n.selector? with
        | none => pure ()
        | some selector => selector.matchers.forM (checkMatcher rules color selector))
      (findings rules color n.ownMatchers) := by
  unfold Expr.ownMatchers
  cases n.selector? with
  | none => exact .nothing
  | some selector =>
    have each (m : Matcher) : Follows (checkMatcher rules color selector m)
        (findings rules color [(selector, m)]) := by
      rw [findings, findings, andThen_nil]
      exact checkMatcher_follows selector m
    simp only [List.map_eq_flatMap]
    exact Follows.forM each selector.matchers

/-- The rule finds what it would find if it compiled every pattern anew. -/
theorem check_eq (e : Expr) :
    check rules color e = findings rules color e.matchers := by
  have visited (entry : Expr × List Expr) := visit_follows rules color entry.1
  have follows := Follows.forM visited (e.preorder [])
  have same : (e.preorder []).flatMap (fun entry => entry.1.ownMatchers) = e.matchers :=
    (List.flatMap_map ..).symm
  rw [same] at follows
  simp only [check, Expr.inspect_eq_forM]
  exact follows.result

/-- The pattern that a label with a value must not have, if its pattern matches the value. -/
def deniedBy? (label value : String) : Option String :=
  if label = metricNameLabel then none
  else (rules.get? label).filter fun pattern =>
    match compile pattern with
    | .error _ => false
    | .ok test => test value

/-- Every pattern of the rules is one for the engine. -/
def Compiles : Prop :=
  ∀ entry ∈ rules.entries, ∃ test, compile entry.2 = .ok test

variable {rules}

theorem Compiles.get? (compiles : Compiles rules) {label pattern : String}
    (found : rules.get? label = some pattern) : ∃ test, compile pattern = .ok test := by
  obtain ⟨before, after, split, -⟩ := List.lookup_eq_some_iff.mp found
  exact compiles (label, pattern) (by rw [split]; simp)

variable (rules)

/-- The finding about a denied matcher. -/
def denial? (pair : Selector × Matcher) : Option Diagnostic :=
  (deniedBy? rules pair.2.label pair.2.value).map fun pattern =>
    ⟨.error, pair.1.span, message pattern, color⟩

variable {rules}

theorem finding_eq_ok (compiles : Compiles rules) (selector : Selector) (m : Matcher) :
    finding rules color selector m = .ok (denial? rules color (selector, m)).toList := by
  unfold finding denial? deniedBy?
  by_cases isName : m.isMetricName = true
  · have same : m.label = metricNameLabel := eq_of_beq isName
    rw [if_pos isName, if_pos same]
    rfl
  · have other : m.label ≠ metricNameLabel := fun same => isName (by simp [Matcher.isMetricName, same])
    rw [if_neg isName, if_neg other]
    cases found : rules.get? m.label with
    | none => rfl
    | some pattern =>
      obtain ⟨test, made⟩ := compiles.get? found
      cases matched : test m.value <;> simp [made, matched, Option.filter]

/-- When all patterns compile, every denied matcher gives one finding. -/
theorem findings_eq_ok (compiles : Compiles rules) (pairs : List (Selector × Matcher)) :
    findings rules color pairs = .ok (pairs.filterMap (denial? rules color)) := by
  induction pairs with
  | nil => rfl
  | cons pair pairs ih =>
    rw [findings, finding_eq_ok color compiles, ih, List.filterMap_cons]
    cases denial? rules color pair <;> rfl

end DeniedLabels

end QueryLint
