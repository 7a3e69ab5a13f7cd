import QueryLint.Proofs.Rule.DeniedLabels

/-! The rule on denied labels, said without its state.

Of the matchers of a tree, the rule watches those on a label that it has a pattern for. It fails at the
first of them whose pattern is none, and otherwise reports those whose value the pattern matches; the
other matchers, and the patterns for labels that do not occur, leave no trace.
-/

set_option autoImplicit false

namespace QueryLint.DeniedLabels

open Pattern.Engine (compile)

/-- A matcher in its selector, with the pattern that the rules have for its label. -/
structure Watched where
  selector : Selector
  m : Matcher
  pattern : String

namespace Watched

/-- The engine takes the pattern. -/
def Compiles [Pattern.Engine] (w : Watched) : Prop :=
  ∃ test, compile w.pattern = .ok test

/-- Whether the pattern matches the value. -/
def isDenied [Pattern.Engine] (w : Watched) : Bool :=
  match compile w.pattern with
  | .error _ => false
  | .ok test => test w.m.value

/-- The finding at the selector. -/
def diagnostic (color : ColorMode) (w : Watched) : Diagnostic :=
  ⟨.error, w.selector.span, message w.pattern, color⟩

end Watched

section

variable [Pattern.Engine] (rules : LabelMap) (color : ColorMode)

/-- A matcher is watched if it is not on the metric name and its label has a rule. -/
def watch? (pair : Selector × Matcher) : Option Watched :=
  if pair.2.label = metricNameLabel then none
  else (rules.get? pair.2.label).map fun pattern => ⟨pair.1, pair.2, pattern⟩

/-- The watched matchers of a tree in preorder, those of one selector in their own order. -/
def watched (e : Expr) : List Watched :=
  e.matchers.filterMap (watch? rules)

variable {rules}

theorem finding_of_unwatched {pair : Selector × Matcher} (unwatched : watch? rules pair = none) :
    finding rules color pair.1 pair.2 = .ok [] := by
  unfold watch? at unwatched
  unfold finding
  by_cases isName : pair.2.label = metricNameLabel
  · rw [if_pos (by simp [Matcher.isMetricName, isName])]
  · have noRule : rules.get? pair.2.label = none := by simpa [isName] using unwatched
    rw [if_neg (by simp [Matcher.isMetricName, isName]), noRule]

theorem finding_of_watched {pair : Selector × Matcher} {w : Watched}
    (isWatched : watch? rules pair = some w) :
    finding rules color pair.1 pair.2 =
      match compile w.pattern with
      | .error report => .error (.invalidPattern w.pattern report)
      | .ok test => .ok (if test w.m.value then [w.diagnostic color] else []) := by
  unfold watch? at isWatched
  unfold finding
  by_cases isName : pair.2.label = metricNameLabel
  · simp [isName] at isWatched
  · rw [if_neg isName, Option.map_eq_some_iff] at isWatched
    obtain ⟨pattern, found, rfl⟩ := isWatched
    rw [if_neg (by simp [Matcher.isMetricName, isName]), found]
    rfl

/-- Unwatched matchers in front find nothing. -/
theorem findings_cons_unwatched {pair : Selector × Matcher} (unwatched : watch? rules pair = none)
    (pairs : List (Selector × Matcher)) :
    findings rules color (pair :: pairs) = findings rules color pairs := by
  rw [findings, finding_of_unwatched color unwatched]
  cases findings rules color pairs <;> rfl

/-- When the engine takes the patterns of all watched matchers, those that are denied are found. -/
theorem findings_of_compiles {pairs : List (Selector × Matcher)}
    (compiles : ∀ w ∈ pairs.filterMap (watch? rules), w.Compiles) :
    findings rules color pairs =
      .ok (((pairs.filterMap (watch? rules)).filter Watched.isDenied).map (·.diagnostic color)) := by
  induction pairs with
  | nil => rfl
  | cons pair pairs ih =>
    cases isWatched : watch? rules pair with
    | none =>
      rw [List.filterMap_cons_none isWatched] at compiles ⊢
      rw [findings_cons_unwatched color isWatched, ih compiles]
    | some w =>
      rw [List.filterMap_cons_some isWatched] at compiles ⊢
      obtain ⟨test, made⟩ := compiles w List.mem_cons_self
      have rest := ih fun w member => compiles w (List.mem_cons_of_mem _ member)
      rw [findings, finding_of_watched color isWatched, rest, made, List.filter_cons]
      cases matched : test w.m.value with
      | false => simp [andThen, Watched.isDenied, made, matched, bind, Except.bind, pure, Except.pure]
      | true => simp [andThen, Watched.isDenied, made, matched, bind, Except.bind, pure, Except.pure]

/-- The first watched matcher whose pattern the engine refuses fails the rule. -/
theorem findings_of_refused {pairs : List (Selector × Matcher)} {before after : List Watched}
    {w : Watched} {report : String}
    (split : pairs.filterMap (watch? rules) = before ++ w :: after)
    (compiles : ∀ b ∈ before, b.Compiles) (refused : compile w.pattern = .error report) :
    findings rules color pairs = .error (.invalidPattern w.pattern report) := by
  induction pairs generalizing before with
  | nil => simp at split
  | cons pair pairs ih =>
    cases isWatched : watch? rules pair with
    | none =>
      rw [List.filterMap_cons_none isWatched] at split
      rw [findings_cons_unwatched color isWatched, ih split compiles]
    | some first =>
      rw [List.filterMap_cons_some isWatched] at split
      rw [findings, finding_of_watched color isWatched]
      cases before with
      | nil =>
        obtain ⟨rfl, -⟩ := List.cons.inj split
        rw [refused]
        rfl
      | cons b before =>
        obtain ⟨rfl, later⟩ := List.cons.inj split
        obtain ⟨test, made⟩ := compiles first List.mem_cons_self
        rw [made, ih later fun b member => compiles b (List.mem_cons_of_mem _ member)]
        rfl

/-- Only the patterns of the labels at hand matter. -/
theorem findings_congr {others : LabelMap} {pairs : List (Selector × Matcher)}
    (same : ∀ pair ∈ pairs, pair.2.label ≠ metricNameLabel →
      others.get? pair.2.label = rules.get? pair.2.label) :
    findings others color pairs = findings rules color pairs := by
  induction pairs with
  | nil => rfl
  | cons pair pairs ih =>
    have first : finding others color pair.1 pair.2 = finding rules color pair.1 pair.2 := by
      unfold finding
      by_cases isName : pair.2.label = metricNameLabel
      · rw [if_pos (by simp [Matcher.isMetricName, isName]), if_pos (by simp [Matcher.isMetricName, isName])]
      · rw [same pair List.mem_cons_self isName]
    rw [findings, findings, first, ih fun p member => same p (List.mem_cons_of_mem _ member)]

variable (rules)

/-- What the rule on denied labels gives for a tree: when the engine takes every pattern that is needed,
one finding at the selector for each watched matcher that is denied, in order; otherwise the failure of
the first pattern it refuses. Rules for labels that do not occur make no difference. -/
theorem check_watched (e : Expr) :
    ((∀ w ∈ watched rules e, w.Compiles) →
      check rules color e =
        .ok (((watched rules e).filter Watched.isDenied).map (·.diagnostic color))) ∧
    (∀ before w after report, watched rules e = before ++ w :: after →
      (∀ b ∈ before, b.Compiles) → compile w.pattern = .error report →
      check rules color e = .error (.invalidPattern w.pattern report)) ∧
    ∀ others : LabelMap,
      (∀ pair ∈ e.matchers, pair.2.label ≠ metricNameLabel →
        others.get? pair.2.label = rules.get? pair.2.label) →
      check others color e = check rules color e := by
  rw [check_eq]
  refine ⟨findings_of_compiles color, ?_, ?_⟩
  · intro before w after report split compiles refused
    exact findings_of_refused color split compiles refused
  · intro others same
    rw [check_eq]
    exact findings_congr color same

end

/-- A denied label, one with another value and one whose pattern is none; without the last, its rule does
no harm. -/
theorem check_watched_labels :
    let report := "regex parse error:\n    (\n    ^\nerror: unclosed group"
    let _ := Pattern.Engine.ofAnswers [("x", .ok fun text => text.toList.contains 'x'), ("(", .error report)]
    let rules : LabelMap := ⟨[("__name__", "up"), ("a", "x"), ("b", "(")], by decide⟩
    let front : List Matcher :=
      [⟨"__name__", .equal, "up", ⟨0, 2⟩⟩, ⟨"a", .equal, "x", ⟨3, 8⟩⟩, ⟨"a", .regex, "y", ⟨9, 15⟩⟩]
    let fine : Expr := .matrix ⟨some "up", front, {}, ⟨0, 16⟩⟩ 60000 ⟨0, 20⟩
    let broken : Expr := .vector ⟨some "up", front ++ [⟨"b", .equal, "", ⟨16, 20⟩⟩], {}, ⟨0, 21⟩⟩
    check rules .disabled fine = .ok [⟨.error, ⟨0, 16⟩, message "x", .disabled⟩] ∧
      check rules .disabled broken = .error (.invalidPattern "(" report) ∧
      check ⟨[("a", "x")], List.pairwise_singleton _ _⟩ .disabled fine = check rules .disabled fine := by
  intro report _ rules front fine broken
  have compiled : compile "x" = .ok fun text => text.toList.contains 'x' := rfl
  -- Both expressions are a single selector.
  have own (e : Expr) (leaf : e.children = []) : e.matchers = e.ownMatchers := by
    rw [Expr.matchers, Expr.nodes_eq, leaf]
    simp
  have fineWatched : watched rules fine =
      [⟨⟨some "up", front, {}, ⟨0, 16⟩⟩, ⟨"a", .equal, "x", ⟨3, 8⟩⟩, "x"⟩,
        ⟨⟨some "up", front, {}, ⟨0, 16⟩⟩, ⟨"a", .regex, "y", ⟨9, 15⟩⟩, "x"⟩] := by
    rw [watched, own fine rfl]
    rfl
  have brokenWatched : ∃ before w, watched rules broken = before ++ [w] ∧
      (∀ b ∈ before, b.Compiles) ∧ w.pattern = "(" := by
    rw [watched, own broken rfl]
    refine ⟨[_, _], _, rfl, ?_, rfl⟩
    simp [Watched.Compiles, compiled]
  obtain ⟨checked, -, same⟩ := check_watched rules .disabled fine
  refine ⟨?_, ?_, ?_⟩
  · rw [checked (by simp [fineWatched, Watched.Compiles, compiled]), fineWatched]
    simp [Watched.isDenied, Watched.diagnostic, compiled]
  · obtain ⟨before, w, split, compiles, isPattern⟩ := brokenWatched
    have failed := (check_watched rules .disabled broken).2.1 before w [] report split compiles
    rw [isPattern] at failed
    exact failed rfl
  · refine same _ fun pair member notName => ?_
    rw [own fine rfl] at member
    simp only [fine, front, Expr.ownMatchers, Expr.selector?, List.map_cons, List.map_nil, List.mem_cons,
      List.not_mem_nil, or_false] at member
    rcases member with rfl | rfl | rfl
    · exact absurd rfl notName
    · rfl
    · rfl

end QueryLint.DeniedLabels
