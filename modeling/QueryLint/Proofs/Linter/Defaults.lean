import QueryLint.Proofs.Expr.ErrorSpan
import QueryLint.Proofs.Linter.Denied

/-! The linter with its default rules can always render.

Rendering refuses a finding whose span is not in the text. Errors of the parser and selectors of a
parsed tree all lie in the text, so what remains is a pattern that cannot be compiled, and the rule
fails on that before it reports anything.
-/

set_option autoImplicit false

namespace QueryLint

open Text (byteSize)

namespace DeniedLabels

open Pattern.Engine (compile)

variable [Pattern.Engine] (rules : LabelMap) (color : ColorMode)

/-- The error is about a pattern of the rules that the engine refuses. -/
def BadPattern (error : RuleError) : Prop :=
  ∃ label pattern report, rules.get? label = some pattern ∧ compile pattern = .error report ∧
    error = .invalidPattern pattern report

/-- One matcher gives findings at its selector, or fails on its pattern. -/
theorem finding_cases (selector : Selector) (m : Matcher) :
    (∃ ds, finding rules color selector m = .ok ds ∧ ∀ d ∈ ds, d.span = selector.span) ∨
      ∃ error, finding rules color selector m = .error error ∧ BadPattern rules error := by
  unfold finding
  split
  · exact .inl ⟨[], rfl, by simp⟩
  · cases found : rules.get? m.label with
    | none => exact .inl ⟨[], rfl, by simp⟩
    | some pattern =>
      cases made : compile pattern with
      | error report => exact .inr ⟨_, by simp only [made], m.label, pattern, report, found, made, rfl⟩
      | ok test =>
        simp only [made]
        refine .inl ⟨_, rfl, fun d member => ?_⟩
        split at member
        · rw [List.mem_singleton.mp member]
        · cases member

/-- All matchers together give findings at selectors among them, or fail on a pattern. -/
theorem findings_cases (pairs : List (Selector × Matcher)) :
    (∃ ds, findings rules color pairs = .ok ds ∧ ∀ d ∈ ds, ∃ pair ∈ pairs, d.span = pair.1.span) ∨
      ∃ error, findings rules color pairs = .error error ∧ BadPattern rules error := by
  induction pairs with
  | nil => exact .inl ⟨[], rfl, by simp⟩
  | cons pair pairs ih =>
    obtain ⟨selector, m⟩ := pair
    rw [findings]
    rcases finding_cases rules color selector m with
      ⟨first, checked, atFirst⟩ | ⟨error, failed, isBad⟩
    · rw [checked]
      rcases ih with ⟨more, checked, atMore⟩ | ⟨error, failed, isBad⟩
      · rw [checked]
        refine .inl ⟨first ++ more, rfl, fun d member => ?_⟩
        rcases List.mem_append.mp member with member | member
        · exact ⟨(selector, m), by simp, atFirst d member⟩
        · obtain ⟨pair, isPair, same⟩ := atMore d member
          exact ⟨pair, by simp [isPair], same⟩
      · rw [failed]
        exact .inr ⟨error, rfl, isBad⟩
    · rw [failed]
      exact .inr ⟨error, rfl, isBad⟩

/-- On a parsed tree, the rule gives findings that lie in the text, or fails on a pattern. -/
theorem check_cases {source : String} {root : Expr} (parsed : Expr.parse source = .ok root) :
    (∃ ds, check rules color root = .ok ds ∧
        ∀ d ∈ ds, d.span.fits (byteSize source.toList) = true) ∨
      ∃ error, check rules color root = .error error ∧ BadPattern rules error := by
  rw [check_eq]
  refine (findings_cases rules color root.matchers).imp_left ?_
  rintro ⟨ds, checked, atSelectors⟩
  refine ⟨ds, checked, fun d member => ?_⟩
  obtain ⟨pair, isPair, same⟩ := atSelectors d member
  rw [same]
  exact selector_fits parsed isPair

end DeniedLabels

namespace Linter

/-- Over an unlimited sink, the action fails with the error and leaves the sink as it was. -/
def Refuses {α : Type} (action : LintM α) (error : LintError) : Prop :=
  ∀ s : Session, s.sink.limit = none → ∃ s', action.run.run s = (.error error, s') ∧ s'.sink = s.sink

theorem Ends.refuses {α : Type} {action : LintM α} {error : LintError} {record : Record}
    (ends : Ends action (.error error) record) (silent : record.bytes = []) : Refuses action error := by
  intro s unlimited
  refine ⟨_, ends s unlimited, ?_⟩
  rw [Session.add, silent, List.append_nil]

variable [Pattern.Engine] [Coloring]

/-- A lint call whose only rule fails reports nothing. -/
theorem Refuses.run {paint : Paint} {expression : String} {filter : Severity} {e : Expr} {rule : Rule}
    {color : ColorMode} {error : RuleError} (parsed : Expr.parse expression = .ok e)
    (failed : rule.check e = .error error) :
    Refuses ((⟨[rule], color, paint⟩ : Linter).run expression filter) (.rule rule.name error) := by
  have ends : Ends ((⟨[rule], color, paint⟩ : Linter).run expression filter) (.error _) _ :=
    .run_stops parsed (show [rule] = ([] : List (Rule × List Diagnostic)).map Prod.fst ++ [rule] from rfl)
      (by simp) (.failed failed)
  exact ends.refuses rfl

/-- A lint call on a text that does not parse reports every error, for errors pass every filter, and
applies no rule. -/
theorem Ends.run_error {linter : Linter} {expression : String} {filter : Severity}
    {errors : List ParseError} (failed : Expr.parse expression = .error errors) :
    Ends (linter.run expression filter) (.ok ⟨true, errors.length⟩)
      { bytes := (Diagnostic.ofParseErrors linter.color errors).flatMap
          (Diagnostic.bytes linter.paint parserName expression)
        log := [.debug s!"parse failed with {errors.length} error(s)"] } := by
  have visible : Diagnostic.visible filter (Diagnostic.ofParseErrors linter.color errors) =
      Diagnostic.ofParseErrors linter.color errors := by
    refine Diagnostic.visible_errors (fun d member => ?_) filter
    obtain ⟨e, -, rfl⟩ := List.mem_map.mp member
    rfl
  have fit : ∀ d ∈ Diagnostic.visible filter (Diagnostic.ofParseErrors linter.color errors),
      d.span.fits (byteSize expression.toList) = true := by
    intro d member
    obtain ⟨e, isError, rfl⟩ := List.mem_map.mp (Diagnostic.visible_subset filter _ member)
    exact Expr.error_fits failed isError
  have reported : Ends (Linter.reportAll linter.paint parserName expression filter
      (Diagnostic.ofParseErrors linter.color errors)) (.ok _) _ := .reportAll fit
  rw [visible, Diagnostic.ofParseErrors, List.length_map] at reported
  have verdict : Ends (Linter.reportAll linter.paint parserName expression filter
      (Diagnostic.ofParseErrors linter.color errors) >>= fun reported => Pure.pure (Verdict.mk true reported))
      (.ok ⟨true, errors.length⟩) _ := reported.map rfl
  unfold Linter.run
  rw [failed]
  exact (Ends.log _).seq verdict

theorem Writes.run_error {linter : Linter} {expression : String} {filter : Severity}
    {errors : List ParseError} (failed : Expr.parse expression = .error errors) :
    Writes (linter.run expression filter) ⟨true, errors.length⟩
      ((Diagnostic.ofParseErrors linter.color errors).flatMap
        (Diagnostic.bytes linter.paint parserName expression)) :=
  (Ends.run_error failed).writes

/-- With the default rules, every lint call over an unlimited sink returns a verdict, or fails because a
pattern of the rule on denied labels cannot be compiled, and then it has written nothing. -/
theorem run_defaults (source : String) (denied : LabelMap) (color parseColor : ColorMode)
    (paint : Paint) (filter : Severity) :
    (∃ verdict bytes, Writes
        ((⟨Rule.defaults denied color, parseColor, paint⟩ : Linter).run source filter) verdict bytes) ∨
      ∃ error, DeniedLabels.BadPattern denied error ∧ Refuses
        ((⟨Rule.defaults denied color, parseColor, paint⟩ : Linter).run source filter)
        (.rule "denied-labels" error) := by
  cases parsed : Expr.parse source with
  | error errors => exact .inl ⟨_, _, .run_error parsed⟩
  | ok root =>
    rcases DeniedLabels.check_cases denied color parsed with
      ⟨ds, checked, fit⟩ | ⟨error, failed, isBad⟩
    · have checked : (DeniedLabels.rule denied color).check root = .ok ds := checked
      exact .inl ⟨_, _, .run parsed checked fit⟩
    · have failed : (DeniedLabels.rule denied color).check root = .error error := failed
      exact .inr ⟨error, isBad, .run parsed failed⟩

end Linter

end QueryLint
