import QueryLint.Diagnostic.Ansi
import QueryLint.Proofs.Expr.Conditions
import QueryLint.Proofs.Linter.Output
import QueryLint.Proofs.Rule.DeniedLabels

/-! No denied condition escapes the linter.

What the rule on denied labels sees of a text is what the tokens of the text say: it looks at every
condition in braces, once and in order, and beside them only at names of metrics, which it never
reports. So the number of its findings can be read off the tokens.
-/

set_option autoImplicit false

namespace QueryLint

open DeniedLabels (deniedBy? denial? Compiles)
open Pattern.Engine (compile)
open Text (byteSize)

/-- Whether the rules have a pattern for the label that matches the value. -/
def Comparison.isDenied [Pattern.Engine] (rules : LabelMap) (c : Comparison) : Bool :=
  match c.value with
  | .error _ => false
  | .ok value => (deniedBy? rules c.label value).isSome

namespace DeniedLabels

variable [Pattern.Engine] {rules : LabelMap} {color : ColorMode}

theorem deniedBy?_isMetricName {m : Matcher} (isName : m.isMetricName = true) :
    deniedBy? rules m.label m.value = none :=
  if_pos (eq_of_beq isName)

/-- The matcher of a name adds nothing to what is denied in braces. -/
theorem countP_ownMatchers {n : Expr} (named : ∀ s ∈ n.selector?, Grammar.NameFirst s) :
    n.ownMatchers.countP (fun pair => (denial? rules color pair).isSome) =
      n.braced.countP (fun m => m.comparison.isDenied rules) := by
  unfold Expr.ownMatchers Expr.braced
  cases isSelector : n.selector? with
  | none => rfl
  | some s =>
    have same : (fun pair : Selector × Matcher => (denial? rules color pair).isSome) ∘
        (fun m => (s, m)) = fun m => m.comparison.isDenied rules := by
      funext m
      exact Option.isSome_map
    simp only [List.countP_map, same, Option.map_some, Option.getD_some]
    unfold Selector.braced
    -- With a name in front, the first matcher is on the metric name.
    split
    · next hasName =>
      obtain ⟨m, isFirst, isName⟩ := named s isSelector hasName
      obtain ⟨rest, split⟩ := List.head?_eq_some_iff.mp isFirst
      have notDenied : m.comparison.isDenied rules = false := by
        simp [Comparison.isDenied, Matcher.comparison, deniedBy?_isMetricName isName]
      rw [split, List.countP_cons_of_neg (by simp [notDenied])]
      rfl
    · rfl

/-- The rule reports what is denied among the conditions of a parsed tree. -/
theorem length_denials {source : String} {root : Expr} (parsed : Expr.parse source = .ok root) :
    (root.matchers.filterMap (denial? rules color)).length =
      (root.conditions.map Matcher.comparison).countP (·.isDenied rules) := by
  rw [List.length_filterMap_eq_countP, List.countP_map, Expr.conditions_eq_nodes, Expr.matchers,
    List.countP_flatMap, List.countP_flatMap]
  refine congrArg List.sum (List.map_congr_left fun n member => ?_)
  exact countP_ownMatchers (Grammar.parse_nameFirst parsed member)

/-- The selectors of a parsed tree lie in the text. -/
theorem selector_fits {source : String} {root : Expr} (parsed : Expr.parse source = .ok root)
    {pair : Selector × Matcher} (member : pair ∈ root.matchers) :
    pair.1.span.fits (byteSize source.toList) = true := by
  obtain ⟨n, isNode, own⟩ := List.mem_flatMap.mp member
  have isSelector : n.selector? = some pair.1 := Expr.selector?_of_mem_ownMatchers own
  obtain ⟨tokens, clean, placed⟩ := Grammar.parse_placed parsed
  have wellPlaced := placed.nodes n (Expr.mem_nodes_iff.mp isNode)
  have inside := wellPlaced.selector pair.1 isSelector
  have stops := Grammar.stop_le_byteSize clean wellPlaced
  exact Text.Span.fits_iff.mpr
    ⟨Nat.le_of_lt inside.nonempty, Nat.le_trans inside.inside.2 stops⟩

/-- Findings lie in the text. -/
theorem denials_fit {source : String} {root : Expr} (parsed : Expr.parse source = .ok root)
    {d : Diagnostic} (found : d ∈ root.matchers.filterMap (denial? rules color)) :
    d.level = .error ∧ d.span.fits (byteSize source.toList) = true := by
  obtain ⟨pair, member, isDenial⟩ := List.mem_filterMap.mp found
  obtain ⟨pattern, -, rfl⟩ := Option.map_eq_some_iff.mp isDenial
  exact ⟨rfl, selector_fits parsed member⟩

end DeniedLabels

/-- The conditions in the braces of a text are the matchers of its tree, in order, without those of
names; and a linter with the rule on denied labels alone writes one finding for each of them that is
denied, whatever the filter, and fails if there is any. -/
theorem Linter.run_denied [Pattern.Engine] [Coloring] {source : String} {root : Expr}
    (parsed : Expr.parse source = .ok root) :
    ∃ tokens, Token.tokenize source = .ok tokens ∧
      Token.comparisons 0 tokens = root.conditions.map Matcher.comparison ∧
      ∀ (rules : LabelMap) (color parseColor : ColorMode) (paint : Paint) (filter : Severity),
        Compiles rules →
        ∃ found : List Diagnostic,
          found.length = (Token.comparisons 0 tokens).countP (·.isDenied rules) ∧
          Writes ((⟨[DeniedLabels.rule rules color], parseColor, paint⟩ : Linter).run source filter)
            ⟨0 < found.length, found.length⟩
            (found.flatMap (Diagnostic.bytes paint DeniedLabels.name source)) := by
  obtain ⟨tokens, cut, same⟩ := Grammar.comparisons_eq_conditions parsed
  refine ⟨tokens, cut, same, ?_⟩
  intro rules color parseColor paint filter compiles
  -- All findings are errors, which every filter lets through, and all of them can be rendered.
  let found := root.matchers.filterMap (denial? rules color)
  have checked : (DeniedLabels.rule rules color).check root = .ok found :=
    (DeniedLabels.check_eq ..).trans (DeniedLabels.findings_eq_ok color compiles _)
  have visible : Diagnostic.visible filter found = found :=
    Diagnostic.visible_errors (fun d member => (DeniedLabels.denials_fit parsed member).1) filter
  have writes : Writes
      ((⟨[DeniedLabels.rule rules color], parseColor, paint⟩ : Linter).run source filter) _ _ :=
    .run parsed checked fun d member => (DeniedLabels.denials_fit parsed member).2
  rw [visible] at writes
  refine ⟨found, ?_, writes⟩
  rw [same]
  exact DeniedLabels.length_denials parsed

theorem Linter.run_denied_once :
    let rules : LabelMap := ⟨[("b", "^c")], List.pairwise_singleton _ _⟩
    let _ := Pattern.Engine.ofAnswers [("^c", .ok fun text => text.toList.head? == some 'c')]
    let _ := Ansi.coloring
    ∃ root, Expr.parse "a\x7bb='c'\x7d" = .ok root ∧ Compiles rules ∧
      ∃ tokens, Token.tokenize "a\x7bb='c'\x7d" = .ok tokens ∧
        Token.comparisons 0 tokens = root.conditions.map Matcher.comparison ∧
        (Token.comparisons 0 tokens).countP (·.isDenied rules) = 1 ∧
        ∃ found : List Diagnostic, found.length = 1 ∧
          Writes ((⟨[DeniedLabels.rule rules .disabled], .disabled, ⟨false⟩⟩ : Linter).run
              "a\x7bb='c'\x7d" .error)
            ⟨0 < found.length, found.length⟩
            (found.flatMap (Diagnostic.bytes ⟨false⟩ DeniedLabels.name "a\x7bb='c'\x7d")) := by
  intro rules _ _
  have compiled : compile "^c" = .ok fun text => text.toList.head? == some 'c' := rfl
  have compiles : Compiles rules := by
    intro entry member
    rw [List.mem_singleton.mp member]
    exact ⟨_, compiled⟩
  have reads : (Expr.parse "a\x7bb='c'\x7d").isOk = true := by cbv
  obtain ⟨root, parsed⟩ := Grammar.exists_of_isOk reads
  obtain ⟨tokens, cut, same, written⟩ := run_denied parsed
  have once : (Token.comparisons 0 tokens).countP (·.isDenied rules) = 1 := by
    have shown : (Token.tokenize "a\x7bb='c'\x7d").toOption.map (Token.comparisons 0) =
        some [⟨"b", .equal, .ok "c"⟩] := by cbv
    rw [cut] at shown
    rw [Option.some.inj shown]
    simp [Comparison.isDenied, deniedBy?, LabelMap.get?, rules, compiled, metricNameLabel, Option.filter]
  obtain ⟨found, count, writes⟩ := written rules .disabled .disabled ⟨false⟩ .error compiles
  exact ⟨root, parsed, compiles, tokens, cut, same, once, found, count.trans once, writes⟩

end QueryLint
