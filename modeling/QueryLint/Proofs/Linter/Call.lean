import QueryLint.Proofs.Linter.Defaults

/-! The meaning of a lint call, for every list of rules.

Every rule passes or stops the call, so the rules before the first that stops it pass. What a call gives
and adds to the session is then known in all cases: it depends on the text, the rules and the filter, and
on nothing that the session held before.
-/

set_option autoImplicit false

namespace QueryLint

open Text (byteSize)

namespace Linter

variable (expression : String) (filter : Severity) (e : Expr)

theorem passes_or_stops (rule : Rule) :
    (∃ ds, Passes expression filter e rule ds) ∨
      ∃ entries shown error, Stops expression filter e rule entries shown error := by
  cases checked : rule.check e with
  | error error => exact .inr ⟨_, _, _, .failed checked⟩
  | ok ds =>
    -- The first visible finding that does not fit, if there is one, is where the call stops.
    cases found : (Diagnostic.visible filter ds).find? (!·.span.fits (byteSize expression.toList)) with
    | none => exact .inl ⟨ds, checked, by simpa using found⟩
    | some d =>
      obtain ⟨unfit, shown, rest, split, fit⟩ := List.find?_eq_some_iff_append.mp found
      exact .inr ⟨_, _, _, .unfit checked split (by simpa using fit) (by simpa using unfit)⟩

/-- Either all rules pass, or there is a first that stops the call. -/
theorem all_pass_or_stops (rules : List Rule) :
    (∃ done : List (Rule × List Diagnostic), rules = done.map Prod.fst ∧
      ∀ entry ∈ done, Passes expression filter e entry.1 entry.2) ∨
    ∃ (done : List (Rule × List Diagnostic)) (rule : Rule) (after : List Rule),
      rules = done.map Prod.fst ++ rule :: after ∧
      (∀ entry ∈ done, Passes expression filter e entry.1 entry.2) ∧
      ∃ entries shown error, Stops expression filter e rule entries shown error := by
  induction rules with
  | nil => exact .inl ⟨[], rfl, by simp⟩
  | cons rule rules ih =>
    rcases passes_or_stops expression filter e rule with ⟨ds, passes⟩ | stops
    · rcases ih with ⟨done, rfl, pass⟩ | ⟨done, last, after, rfl, pass, stops⟩
      · exact .inl ⟨(rule, ds) :: done, rfl, List.forall_mem_cons.mpr ⟨passes, pass⟩⟩
      · exact .inr ⟨(rule, ds) :: done, last, after, rfl, List.forall_mem_cons.mpr ⟨passes, pass⟩, stops⟩
    · exact .inr ⟨[], rule, rules, rfl, by simp, stops⟩

/-- A lint call over an unlimited sink. A text that does not parse has all its errors reported and no rule
applied. Otherwise the rules are applied in order, and the visible findings written, up to the first rule
that fails or has a visible finding that does not fit the text; if there is none, all are applied. -/
theorem run_meaning [Pattern.Engine] [Coloring] (linter : Linter) :
    match Expr.parse expression with
    | .error errors =>
      errors ≠ [] ∧
      Ends (linter.run expression filter) (.ok ⟨true, errors.length⟩)
        { bytes := (Diagnostic.ofParseErrors linter.color errors).flatMap
            (Diagnostic.bytes linter.paint "promql/parser" expression)
          log := [.debug s!"parse failed with {errors.length} error(s)"]
          applied := 0 }
    | .ok e =>
      (∃ done : List (Rule × List Diagnostic), linter.rules = done.map Prod.fst ∧
        (∀ entry ∈ done, Passes expression filter e entry.1 entry.2) ∧
        Ends (linter.run expression filter)
          (.ok ⟨0 < (allVisible filter done).length, (allVisible filter done).length⟩)
          (passRecords linter.paint expression filter done ++
            { log := [verdictEntry filter (allVisible filter done).length] })) ∨
      ∃ (done : List (Rule × List Diagnostic)) (rule : Rule) (after : List Rule)
        (entries : List Log.Entry) (shown : List Diagnostic) (error : LintError),
        linter.rules = done.map Prod.fst ++ rule :: after ∧
        (∀ entry ∈ done, Passes expression filter e entry.1 entry.2) ∧
        Stops expression filter e rule entries shown error ∧
        Ends (linter.run expression filter) (.error error)
          (passRecords linter.paint expression filter done ++
            stopRecord linter.paint expression rule entries shown) := by
  split
  · next errors failed => exact ⟨Expr.errors_ne_nil failed, .run_error failed⟩
  · next e parsed =>
    rcases all_pass_or_stops expression filter e linter.rules with
      ⟨done, rules, pass⟩ | ⟨done, rule, after, rules, pass, entries, shown, error, stops⟩
    · exact .inl ⟨done, rules, pass, .run parsed rules pass⟩
    · exact .inr ⟨done, rule, after, entries, shown, error, rules, pass, stops,
        .run_stops parsed rules pass stops⟩

end Linter

end QueryLint
