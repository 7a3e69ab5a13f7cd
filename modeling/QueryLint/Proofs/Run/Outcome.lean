import QueryLint.Diagnostic.Ansi
import QueryLint.Proofs.Files.Search
import QueryLint.Proofs.Linter.Defaults
import QueryLint.Proofs.Run.Input

/-! How a run ends, over a sink that takes everything.

A run takes steps: it lints expressions one after the other, and it fails where expressions cannot be had.
Each step is known from linting its expression alone, in a new session. The run takes all its steps, or it
ends at the first that has an error; what it writes is what the steps before it write, each by itself.
Which files the steps come from is known where a glob is as it should be.
-/

set_option autoImplicit false

namespace QueryLint

open Text (byteSize)

/-! Calls that fail have written nothing. -/

namespace Linter

variable [Pattern.Engine] [Coloring]

/-- Over an unlimited sink, every call returns a verdict or fails without output. -/
def Settles (linter : Linter) (filter : Severity) : Prop :=
  ∀ expression, (∃ verdict bytes, Writes (linter.run expression filter) verdict bytes) ∨
    ∃ error, Refuses (linter.run expression filter) error

theorem settles_single {rule : Rule} {color : ColorMode} {paint : Paint} {filter : Severity}
    (fit : ∀ expression root ds, Expr.parse expression = .ok root → rule.check root = .ok ds →
      ∀ d ∈ ds, d.span.fits (byteSize expression.toList) = true) :
    (⟨[rule], color, paint⟩ : Linter).Settles filter := by
  intro expression
  cases parsed : Expr.parse expression with
  | error errors => exact .inl ⟨_, _, .run_error parsed⟩
  | ok root =>
    cases checked : rule.check root with
    | ok ds => exact .inl ⟨_, _, .run parsed checked (fit expression root ds parsed checked)⟩
    | error error => exact .inr ⟨_, .run parsed checked⟩

theorem settles_defaults (denied : LabelMap) (color parseColor : ColorMode) (paint : Paint)
    (filter : Severity) : (⟨Rule.defaults denied color, parseColor, paint⟩ : Linter).Settles filter := by
  refine settles_single fun expression root ds parsed checked => ?_
  have checked : DeniedLabels.check denied color root = .ok ds := checked
  rcases DeniedLabels.check_cases denied color parsed with ⟨found, same, fit⟩ | ⟨error, failed, -⟩
  · cases same.symm.trans checked
    exact fit
  · cases failed.symm.trans checked

end Linter

namespace Run

/-! Steps. -/

/-- What a run comes to: an expression to lint, or an error on the way to expressions. -/
inductive Step where
  | lint (site : Option RuleSite) (expression : String)
  | failure (error : RunError)

namespace Step

-- Each expression is linted in a session of its own.

variable [Pattern.Engine] [Coloring] (linter : Linter) (filter : Severity)

def error? : Step → Option RunError
  | .failure error => some error
  | .lint site expression =>
    match ((linter.run expression filter).run.run {}).1 with
    | .ok _ => none
    | .error error => some (.lint site error)

def output : Step → List UInt8
  | .failure _ => []
  | .lint _ expression => ((linter.run expression filter).run.run {}).2.sink.written

def passed : Step → Bool
  | .failure _ => false
  | .lint _ expression =>
    match ((linter.run expression filter).run.run {}).1 with
    | .ok verdict => !verdict.failed
    | .error _ => false

end Step

section

variable [Manifest.Decoder] [FileTree.Globbing]

/-- The steps of a manifest. One that cannot be loaded has no expressions at all. -/
def fileSteps (files : FileTree) (file : String) : List Step :=
  match ((Manifest.expressionsOfFile files file).run.run []).1 with
  | .error error => [.failure (.manifest file error)]
  | .ok rules => rules.map fun rule => .lint (some ⟨rule.name, rule.group, file⟩) rule.expr

def steps (settings : Settings) (files : FileTree) (input : ByteArray) : List Step :=
  if settings.manifests = [] then
    match String.fromUTF8? input with
    | none => [.failure (.input .invalidUtf8)]
    | some text => [.lint none (String.ofList (['\n'].intercalate (inputLines text.toList)))]
  else
    match ((Search.manifests files settings.recursive settings.manifests).run.run []).1 with
    | .error error => [.failure (.search error)]
    | .ok found => found.flatMap (fileSteps files)

/-- The tree is one of files with names, and its glob lists what the patterns for the manifests match. -/
structure Searches (settings : Settings) (files : FileTree) : Prop where
  proper : files.Proper
  escapes : (FileTree.Globbing.glob files).Escapes
  lists : ∀ dir ∈ settings.manifests, files.isDirectory dir = true → ∀ extension ∈ Search.extensions,
    Search.Enumerates (FileTree.Globbing.glob files) files
      (Search.pattern (FileTree.Globbing.glob files) settings.recursive dir extension)

/-- The steps come from the files that the manifests of the settings stand for, in their order; or there is only
the failure to find one of them. -/
theorem steps_of_searches {settings : Settings} {files : FileTree} (searches : Searches settings files)
    (given : settings.manifests ≠ []) (input : ByteArray) :
    (∃ founds, steps settings files input = founds.flatten.flatMap (fileSteps files) ∧
      List.Forall₂ (Search.StandsFor files settings.recursive) settings.manifests founds) ∨
    ∃ before path after, steps settings files input = [.failure (.search (.notFound path))] ∧
      settings.manifests = before ++ path :: after ∧ files.exists? path = false ∧
      ∀ earlier ∈ before, files.exists? earlier = true := by
  rw [steps, if_neg given, Search.manifests, Search.collect_eq]
  rcases Search.mapM_contribution searches.escapes searches.proper searches.lists with
    ⟨founds, answered, each⟩ | ⟨before, path, after, failed, missing⟩
  · refine .inl ⟨founds, ?_, each.imp fun _ _ both => both.2⟩
    rw [answered]
    rfl
  · refine .inr ⟨before, path, after, ?_, missing⟩
    rw [failed]
    rfl

end

/-- The linter of a run. -/
def linterOf [Pattern.Engine] (settings : Settings) (color : ColorMode) (paint : Paint) : Linter where
  rules := Rule.defaults settings.deniedLabels color
  color := color
  paint := paint

/-! Actions over an unlimited sink. -/

/-- The action gives the result and appends `bytes`. -/
def Leaves {α : Type} (action : RunM α) (result : Except RunError α) (bytes : List UInt8) : Prop :=
  ∀ s : Session, s.sink.limit = none → ∃ s', action.run.run s = (result, s') ∧
    s'.sink = { s.sink with written := s.sink.written ++ bytes }

section

variable {α β : Type} {action : RunM α} {next : α → RunM β} {a : α} {error : RunError}
  {front back : List UInt8}

theorem Leaves.bind {result : Except RunError β} (first : Leaves action (.ok a) front)
    (second : Leaves (next a) result back) : Leaves (action >>= next) result (front ++ back) := by
  intro s unlimited
  obtain ⟨s₁, ran, sink⟩ := first s unlimited
  have stillUnlimited : s₁.sink.limit = none := by rw [sink, unlimited]
  obtain ⟨s₂, ranNext, sinkNext⟩ := second s₁ stillUnlimited
  refine ⟨s₂, ?_, ?_⟩
  · rw [Session.run_bind, ran]
    exact ranNext
  · rw [sinkNext, sink, List.append_assoc]

theorem Leaves.bind_error (failed : Leaves action (.error error) front) :
    Leaves (action >>= next) (.error error) front := by
  intro s unlimited
  obtain ⟨s', ran, sink⟩ := failed s unlimited
  refine ⟨s', ?_, sink⟩
  rw [Session.run_bind, ran]

/-- What only changes the log and the counters. -/
theorem Leaves.silent {result : Except RunError α} (change : Session → Session)
    (ran : ∀ s, action.run.run s = (result, change s)) (kept : ∀ s, (change s).sink = s.sink) :
    Leaves action result [] := by
  intro s _
  refine ⟨change s, ran s, ?_⟩
  rw [kept, List.append_nil]

theorem Leaves.pure (a : α) : Leaves (Pure.pure a) (.ok a) [] :=
  .silent id (fun _ => rfl) (fun _ => rfl)

theorem Leaves.throw (error : RunError) : Leaves (throw error : RunM α) (.error error) [] :=
  .silent id (fun _ => rfl) (fun _ => rfl)

theorem Leaves.log (entry : Log.Entry) : Leaves (Run.log entry) (.ok ()) [] :=
  .silent _ (fun _ => rfl) (fun _ => rfl)

theorem Leaves.logged {ε : Type} (wrap : ε → RunError) (action : Logged ε α) :
    Leaves (Run.logged wrap action) ((action.run.run []).1.mapError wrap) [] := by
  refine .silent (fun s => { s with log := s.log ++ (action.run.run []).2 }) (fun s => ?_) (fun _ => rfl)
  unfold Run.logged
  rcases action.run.run [] with ⟨_ | _, entries⟩ <;> rfl

end

theorem run_get (s : Session) : (get : RunM Session).run.run s = (.ok s, s) := rfl

theorem Leaves.sayOk : Leaves Run.sayOk (.ok ()) "ok\n".toUTF8.toList := by
  intro s unlimited
  refine ⟨{ s with sink := { s.sink with written := s.sink.written ++ "ok\n".toUTF8.toList } }, ?_, rfl⟩
  rw [Run.sayOk, Session.run_bind, run_get]
  dsimp only
  rw [Sink.writeText, Sink.write_of_unlimited unlimited]
  rfl

/-! Linting one expression. -/

section

variable [Pattern.Engine] [Coloring] {linter : Linter} {filter : Severity} {site : Option RuleSite}
    {expression : String}

theorem run_lint (s : Session) :
    (Run.lint linter filter site expression).run.run s =
      ((((linter.run expression filter).run.run s).1.map Tally.ofVerdict).mapError (RunError.lint site),
        ((linter.run expression filter).run.run s).2) := by
  rw [Run.lint, Session.run_bind, run_get]
  dsimp only
  rcases (linter.run expression filter).run.run s with ⟨_ | _, _⟩ <;> rfl

theorem Leaves.lint {verdict : Verdict} {bytes : List UInt8}
    (writes : Linter.Writes (linter.run expression filter) verdict bytes) :
    Leaves (Run.lint linter filter site expression) (.ok (.ofVerdict verdict)) bytes := by
  intro s unlimited
  obtain ⟨s', ran, sink⟩ := writes s unlimited
  refine ⟨s', ?_, sink⟩
  rw [run_lint, ran]
  rfl

theorem Leaves.lint_error {error : LintError} (refuses : Linter.Refuses (linter.run expression filter) error) :
    Leaves (Run.lint linter filter site expression) (.error (.lint site error)) [] := by
  intro s unlimited
  obtain ⟨s', ran, sink⟩ := refuses s unlimited
  refine ⟨s', ?_, ?_⟩
  · rw [run_lint, ran]
    rfl
  · rw [sink, List.append_nil]

end

/-! Taking steps. -/

section

variable [Pattern.Engine] [Coloring] (linter : Linter) (filter : Severity)

def tally (steps : List Step) : Tally :=
  ⟨steps.length, steps.countP fun step => !step.passed linter filter⟩

theorem tally_append (first second : List Step) :
    tally linter filter (first ++ second) = (tally linter filter first).add (tally linter filter second) := by
  simp [tally, Tally.add]

theorem passed_tally (steps : List Step) :
    (tally linter filter steps).passed = steps.all (Step.passed linter filter) := by
  rw [Bool.eq_iff_iff]
  simp [tally, Tally.passed]

/-- The action takes all steps and counts them, or it takes those before the first that has an error. -/
inductive Takes (action : RunM Tally) (steps : List Step) : Prop
  | all : (∀ step ∈ steps, step.error? linter filter = none) →
      Leaves action (.ok (tally linter filter steps)) (steps.flatMap (Step.output linter filter)) →
      Takes action steps
  | upTo {before after : List Step} {step : Step} {error : RunError} : steps = before ++ step :: after →
      (∀ step ∈ before, step.error? linter filter = none) → step.error? linter filter = some error →
      Leaves action (.error error) (before.flatMap (Step.output linter filter)) → Takes action steps

variable {linter filter}

theorem Takes.nothing : Takes linter filter (pure {}) [] :=
  .all (by simp) (.pure _)

theorem Takes.failure {action : RunM Tally} {error : RunError} (after : List Step)
    (failed : Leaves action (.error error) []) : Takes linter filter action (.failure error :: after) :=
  .upTo (List.nil_append _).symm (by simp) rfl failed

theorem Takes.behind {α : Type} {action : RunM α} {a : α} {next : α → RunM Tally} {steps : List Step}
    (silent : Leaves action (.ok a) []) (takes : Takes linter filter (next a) steps) :
    Takes linter filter (action >>= next) steps := by
  cases takes with
  | all clean left => exact .all clean (silent.bind left)
  | upTo split clean failed left => exact .upTo split clean failed (silent.bind left)

theorem Takes.append {action more : RunM Tally} {first second : List Step}
    (takes : Takes linter filter action first) (takesMore : Takes linter filter more second) :
    Takes linter filter (do
      let counted ← action
      let others ← more
      pure (counted.add others)) (first ++ second) := by
  cases takes with
  | upTo split clean failed left =>
    rw [split, List.append_assoc, List.cons_append]
    exact .upTo rfl clean failed left.bind_error
  | all clean left =>
    cases takesMore with
    | upTo split cleanMore failed leftMore =>
      rw [split, ← List.append_assoc]
      refine .upTo rfl (List.forall_mem_append.mpr ⟨clean, cleanMore⟩) failed ?_
      rw [List.flatMap_append]
      exact left.bind leftMore.bind_error
    | all cleanMore leftMore =>
      refine .all (List.forall_mem_append.mpr ⟨clean, cleanMore⟩) ?_
      rw [List.flatMap_append, tally_append]
      refine left.bind ?_
      rw [← List.append_nil (second.flatMap _)]
      exact leftMore.bind (.pure _)

theorem Takes.lint (settles : linter.Settles filter) (site : Option RuleSite) (expression : String) :
    Takes linter filter (Run.lint linter filter site expression) [.lint site expression] := by
  rcases settles expression with ⟨verdict, bytes, writes⟩ | ⟨error, refuses⟩
  · obtain ⟨s, ran, sink⟩ := writes {} rfl
    have output : Step.output linter filter (.lint site expression) = bytes := by
      rw [Step.output, ran, sink]
      rfl
    have counted : tally linter filter [.lint site expression] = .ofVerdict verdict := by
      rw [tally, Tally.ofVerdict]
      simp [Step.passed, ran]
    refine .all ?_ ?_
    · simp [Step.error?, ran]
    · rw [List.flatMap_singleton, output, counted]
      exact .lint writes
  · obtain ⟨s, ran, -⟩ := refuses {} rfl
    have failed : Step.error? linter filter (.lint site expression) = some (.lint site error) := by
      rw [Step.error?, ran]
    exact .upTo (List.nil_append _).symm (by simp) failed (.lint_error refuses)

theorem Takes.lintRules (settles : linter.Settles filter) (file : String) (rules : List RuleExpression) :
    Takes linter filter (Run.lintRules linter filter file rules)
      (rules.map fun rule => .lint (some ⟨rule.name, rule.group, file⟩) rule.expr) := by
  induction rules with
  | nil => exact .nothing
  | cons rule rules ih => exact (Takes.lint settles _ rule.expr).append ih

theorem Takes.lintFiles [Manifest.Decoder] (settles : linter.Settles filter) (files : FileTree)
    (found : List String) :
    Takes linter filter (Run.lintFiles linter filter files found) (found.flatMap (fileSteps files)) := by
  induction found with
  | nil => exact .nothing
  | cons file found ih =>
    rw [List.flatMap_cons, fileSteps]
    have loaded := Leaves.logged (.manifest file) (Manifest.expressionsOfFile files file)
    cases result : ((Manifest.expressionsOfFile files file).run.run []).1 with
    | error error =>
      rw [result] at loaded
      exact .failure _ loaded.bind_error
    | ok rules =>
      rw [result] at loaded
      exact .behind loaded (.behind (.log _) ((Takes.lintRules settles file rules).append ih))

theorem Takes.lintAll [Manifest.Decoder] [FileTree.Globbing] {settings : Settings}
    (settles : linter.Settles settings.levelFilter) (files : FileTree) (input : ByteArray) :
    Takes linter settings.levelFilter (Run.lintAll settings linter files input) (steps settings files input) := by
  unfold Run.lintAll steps
  by_cases standard : settings.manifests = []
  · rw [if_pos standard, if_pos (by rw [standard]; rfl), readExpression]
    cases String.fromUTF8? input with
    | none => exact .failure [] (Leaves.throw _).bind_error
    | some text =>
      dsimp only
      rw [joinLines_eq]
      exact .behind (.pure _) (.lint settles none _)
  · rw [if_neg standard, if_neg (by simpa using standard)]
    have searched := Leaves.logged .search (Search.manifests files settings.recursive settings.manifests)
    cases result : ((Search.manifests files settings.recursive settings.manifests).run.run []).1 with
    | error error =>
      rw [result] at searched
      exact .failure [] searched.bind_error
    | ok found =>
      rw [result] at searched
      refine .behind searched ?_
      have linted : Takes linter settings.levelFilter _ _ := .lintFiles settles files found
      dsimp only
      split
      · exact .behind (.log _) linted
      · exact linted

end

/-- Behind its last step a run says whether all passed. -/
theorem Leaves.finish (tally : Tally) :
    Leaves (do
      Run.log (.info s!"{tally.linted} expression(s) linted, {tally.failed} failed")
      if tally.passed then Run.sayOk
      return tally.passed) (.ok tally.passed) (if tally.passed then "ok\n".toUTF8.toList else []) := by
  refine (Leaves.log _).bind ?_
  cases tally.passed with
  | false => exact .pure false
  | true =>
    have said : Leaves (Run.sayOk >>= fun _ => Pure.pure true) (.ok true) ("ok\n".toUTF8.toList ++ []) :=
      Leaves.sayOk.bind (.pure true)
    rw [List.append_nil] at said
    exact said

end Run

/-- A run ends at the first step that has an error, with that error and with what the steps before it
write. If there is none, all steps are taken, also behind one that failed; the run says `ok` and returns
true if all of them passed. If manifests are given and the glob lists what patterns match, the steps are those
of the files that the manifests stand for, or there is only the failure to find one. -/
theorem run_outcome [Pattern.Engine] [Coloring] [Manifest.Decoder] [FileTree.Globbing] (settings : Settings)
    (color : ColorMode) (paint : Paint) (files : FileTree) (input : ByteArray) :
    let linter := Run.linterOf settings color paint
    let steps := Run.steps settings files input
    let error? := Run.Step.error? linter settings.levelFilter
    let output := Run.Step.output linter settings.levelFilter
    let passed := steps.all (Run.Step.passed linter settings.levelFilter)
    ((∃ before step after error, steps = before ++ step :: after ∧ (∀ step ∈ before, error? step = none) ∧
        error? step = some error ∧
        Run.Leaves (run settings color paint files input) (.error error) (before.flatMap output)) ∨
      (∀ step ∈ steps, error? step = none) ∧
        Run.Leaves (run settings color paint files input) (.ok passed)
          (steps.flatMap output ++ if passed then "ok\n".toUTF8.toList else [])) ∧
    (settings.manifests ≠ [] → Run.Searches settings files →
      (∃ founds, steps = founds.flatten.flatMap (Run.fileSteps files) ∧
        List.Forall₂ (Search.StandsFor files settings.recursive) settings.manifests founds) ∨
      ∃ before path after, steps = [.failure (.search (.notFound path))] ∧
        settings.manifests = before ++ path :: after ∧ files.exists? path = false ∧
        ∀ earlier ∈ before, files.exists? earlier = true) := by
  intro linter steps error? output passed
  refine ⟨?_, fun given searches => Run.steps_of_searches searches given input⟩
  have settles : linter.Settles settings.levelFilter := Linter.settles_defaults _ _ _ _ _
  have takes : Run.Takes linter settings.levelFilter (Run.lintAll settings linter files input) steps :=
    .lintAll settles files input
  cases takes with
  | upTo split clean failed left => exact .inl ⟨_, _, _, _, split, clean, failed, left.bind_error⟩
  | all clean left =>
    have counted : passed = (Run.tally linter settings.levelFilter steps).passed :=
      (Run.passed_tally linter settings.levelFilter steps).symm
    refine .inr ⟨clean, ?_⟩
    rw [counted]
    exact left.bind (.finish _)

/-- A directory that is given by its absolute path. -/
theorem run_outcome_absolute :
    let files : FileTree := .directory [("rules", .directory [("a.yaml", .file .empty)])]
    let settings : Settings := { manifests := ["/rules"] }
    let _ := Pattern.Engine.ofAnswers []
    let _ := Ansi.coloring
    let _ : Manifest.Decoder := ⟨fun _ => [.manifest ⟨none, [⟨"g", [⟨none, none, some (.text "up")⟩]⟩]⟩]⟩
    let _ := FileTree.globbing
    Run.Searches settings files ∧
      Run.steps settings files .empty = [.lint (some ⟨none, "g", "/rules/a.yaml"⟩) "up"] ∧
      Run.Leaves (run settings .disabled ⟨false⟩ files .empty) (.ok true) "ok\n".toUTF8.toList := by
  intro files settings _ _ _ _
  have proper : files.Proper := by
    refine .directory (by decide) (by decide) (List.forall_mem_singleton.mpr ?_)
    exact .directory (by decide) (by decide) (List.forall_mem_singleton.mpr (.file _))
  have searches : Run.Searches settings files := by
    refine ⟨proper, files.glob_escapes, List.forall_mem_singleton.mpr fun _ extension known => ?_⟩
    exact FileTree.glob_enumerates proper rfl rfl known
  have steps : Run.steps settings files .empty = [.lint (some ⟨none, "g", "/rules/a.yaml"⟩) "up"] := by
    cbv
  have outcome := run_outcome settings .disabled ⟨false⟩ files .empty
  rw [steps] at outcome
  generalize isStep : Run.Step.lint (some ⟨none, "g", "/rules/a.yaml"⟩) "up" = step at outcome
  generalize isLinter : Run.linterOf settings .disabled ⟨false⟩ = linter at outcome
  have clean : step.error? linter settings.levelFilter = none := by
    rw [← isStep, ← isLinter]
    cbv
  have passes : step.passed linter settings.levelFilter = true := by
    rw [← isStep, ← isLinter]
    cbv
  have silent : step.output linter settings.levelFilter = [] := by
    rw [← isStep, ← isLinter]
    cbv
  refine ⟨searches, steps.trans (isStep ▸ rfl), ?_⟩
  rcases outcome.1 with ⟨before, stop, after, error, split, -, failed, -⟩ | ⟨-, left⟩
  · have isStop : stop ∈ [step] := by simp [split]
    rw [List.mem_singleton.mp isStop, clean] at failed
    cases failed
  · simpa [passes, silent] using left

end QueryLint
