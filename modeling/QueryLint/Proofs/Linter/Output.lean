import QueryLint.Linter

/-! What linting leaves behind when the sink takes everything.

`Ends action result record` says how an action ends and all that it adds to the session: bytes, entries of
the log and applications of rules. It composes along the steps of a lint call. A rule passes if all its
visible findings can be written, and stops the call otherwise; so the output of a call is the renderings of
the findings up to the first rule that stops it. `Writes` keeps of this only the value and the bytes.
-/

set_option autoImplicit false

namespace QueryLint

open Text (byteSize)

/-- The rendering of a finding, as it is written. -/
def Diagnostic.bytes [Coloring] (paint : Paint) (producer expression : String)
    (d : Diagnostic) : List UInt8 :=
  (String.ofList (d.lines paint producer expression.toList)).toUTF8.toList

theorem Diagnostic.visible_errors {ds : List Diagnostic} (errors : ∀ d ∈ ds, d.level = .error)
    (filter : Severity) : visible filter ds = ds := by
  refine List.filter_eq_self.mpr fun d member => ?_
  rw [isVisible, errors d member]
  cases filter <;> rfl

theorem Diagnostic.visible_subset (filter : Severity) (ds : List Diagnostic) : visible filter ds ⊆ ds :=
  fun _ member => (List.mem_filter.mp member).1

/-! Records. -/

/-- What is added to a session. -/
@[ext] structure Record where
  bytes : List UInt8 := []
  log : List Log.Entry := []
  applied : Nat := 0

namespace Record

instance : Append Record where
  append a b := ⟨a.bytes ++ b.bytes, a.log ++ b.log, a.applied + b.applied⟩

@[simp] theorem bytes_append (a b : Record) : (a ++ b).bytes = a.bytes ++ b.bytes := rfl

@[simp] theorem log_append (a b : Record) : (a ++ b).log = a.log ++ b.log := rfl

@[simp] theorem applied_append (a b : Record) : (a ++ b).applied = a.applied + b.applied := rfl

theorem append_assoc (a b c : Record) : a ++ b ++ c = a ++ (b ++ c) := by
  ext1 <;> simp [Nat.add_assoc]

@[simp] theorem append_empty (a : Record) : a ++ ({} : Record) = a := by
  ext1 <;> simp

@[simp] theorem empty_append (a : Record) : ({} : Record) ++ a = a := by
  ext1 <;> simp

end Record

/-- The session with a record behind what it holds. -/
def Session.add (s : Session) (record : Record) : Session where
  sink := { s.sink with written := s.sink.written ++ record.bytes }
  log := s.log ++ record.log
  applied := s.applied + record.applied

@[simp] theorem Session.add_empty (s : Session) : s.add {} = s := by
  simp [add]

theorem Session.add_add (s : Session) (a b : Record) : (s.add a).add b = s.add (a ++ b) := by
  simp [add, Nat.add_assoc]

/-- What may fail and keeps the session goes on in the session that was left. -/
theorem Session.run_bind {ε α β : Type} (action : ExceptT ε (StateM Session) α)
    (next : α → ExceptT ε (StateM Session) β) (s : Session) :
    (action >>= next).run.run s =
      match action.run.run s with
      | (.ok a, s) => (next a).run.run s
      | (.error error, s) => (.error error, s) := by
  rw [ExceptT.run_bind, StateT.run_bind]
  rcases action.run.run s with ⟨_ | _, _⟩ <;> rfl

namespace Linter

theorem run_emit (text : String) (s : Session) :
    (Linter.emit text).run.run s =
      (if (s.sink.writeText text).1 then .ok () else .error (.render .closed),
        { s with sink := (s.sink.writeText text).2 }) := by
  change (if (s.sink.writeText text).1 then Pure.pure () else MonadExcept.throw (.render .closed) : LintM Unit).run.run
    { s with sink := (s.sink.writeText text).2 } = _
  split <;> rfl

/-- Over an unlimited sink, the action gives the result and adds the record to the session. -/
def Ends {α : Type} (action : LintM α) (result : Except LintError α) (record : Record) : Prop :=
  ∀ s : Session, s.sink.limit = none → action.run.run s = (result, s.add record)

section

variable {α β : Type} {action : LintM α} {next : α → LintM β} {a : α} {error : LintError}
  {first second : Record}

theorem Ends.bind {result : Except LintError β} (ends : Ends action (.ok a) first)
    (endsNext : Ends (next a) result second) : Ends (action >>= next) result (first ++ second) := by
  intro s unlimited
  rw [Session.run_bind, ends s unlimited, ← Session.add_add]
  exact endsNext (s.add first) unlimited

theorem Ends.seq {action : LintM Unit} {more : LintM β} {result : Except LintError β}
    (ends : Ends action (.ok ()) first) (endsMore : Ends more result second) :
    Ends (action >>= fun _ => more) result (first ++ second) :=
  ends.bind endsMore

theorem Ends.bind_error (ends : Ends action (.error error) first) :
    Ends (action >>= next) (.error error) first := by
  intro s unlimited
  rw [Session.run_bind, ends s unlimited]

theorem Ends.pure (a : α) : Ends (Pure.pure a) (.ok a) {} := by
  intro s _
  rw [Session.add_empty]
  rfl

theorem Ends.throw (error : LintError) : Ends (throw error : LintM α) (.error error) {} := by
  intro s _
  rw [Session.add_empty]
  rfl

/-- The value may still be changed by what writes nothing. -/
theorem Ends.map {b : β} (ends : Ends action (.ok a) first) (same : next a = Pure.pure b) :
    Ends (action >>= next) (.ok b) first := by
  have endsNext : Ends (next a) (.ok b) {} := same ▸ .pure b
  simpa using ends.bind endsNext

end

/-! Steps of a lint call. -/

theorem Ends.log (entry : Log.Entry) : Ends (Linter.log entry) (.ok ()) { log := [entry] } := by
  intro s _
  simp only [Session.add, List.append_nil, Nat.add_zero]
  rfl

theorem Ends.count :
    Ends (modify fun s => { s with applied := s.applied + 1 }) (.ok ()) { applied := 1 } := by
  intro s _
  simp only [Session.add, List.append_nil]
  rfl

theorem Ends.emit (text : String) : Ends (Linter.emit text) (.ok ()) { bytes := text.toUTF8.toList } := by
  intro s unlimited
  rw [run_emit, Sink.writeText, Sink.write_of_unlimited unlimited]
  simp only [Session.add, List.append_nil, Nat.add_zero]
  rfl

section

variable {paint : Paint} {producer expression : String} {filter : Severity}

variable [Coloring]

theorem Ends.report {d : Diagnostic} (fits : d.span.fits (byteSize expression.toList) = true) :
    Ends (Linter.report paint producer expression d) (.ok ()) { bytes := d.bytes paint producer expression } := by
  have rendered : d.render paint producer expression =
      .ok (String.ofList (d.lines paint producer expression.toList)) := if_pos fits
  rw [Linter.report, rendered]
  exact .emit _

theorem Ends.report_unfit {d : Diagnostic} (unfit : d.span.fits (byteSize expression.toList) = false) :
    Ends (Linter.report paint producer expression d)
      (.error (.render (.invalidSpan d.span (byteSize expression.toList)))) {} := by
  have refused : d.render paint producer expression =
      .error (.invalidSpan d.span (byteSize expression.toList)) := if_neg (by simp [unfit])
  rw [Linter.report, refused]
  exact .throw _

/-- Findings that fit are written one behind the other. -/
theorem Ends.forM_report {shown : List Diagnostic}
    (fit : ∀ d ∈ shown, d.span.fits (byteSize expression.toList) = true) :
    Ends (shown.forM (Linter.report paint producer expression)) (.ok ())
      { bytes := shown.flatMap (Diagnostic.bytes paint producer expression) } := by
  induction shown with
  | nil => exact .pure ()
  | cons d shown ih =>
    have first : Ends (Linter.report paint producer expression d) (.ok ()) _ := .report (fit d (by simp))
    exact first.seq (ih fun d member => fit d (by simp [member]))

theorem Ends.reportAll {ds : List Diagnostic}
    (fit : ∀ d ∈ Diagnostic.visible filter ds, d.span.fits (byteSize expression.toList) = true) :
    Ends (Linter.reportAll paint producer expression filter ds) (.ok (Diagnostic.visible filter ds).length)
      { bytes := (Diagnostic.visible filter ds).flatMap (Diagnostic.bytes paint producer expression) } :=
  (Ends.forM_report fit).map rfl

/-- A finding that does not fit is the last that is looked at. -/
theorem Ends.reportAll_unfit {ds shown rest : List Diagnostic} {d : Diagnostic}
    (split : Diagnostic.visible filter ds = shown ++ d :: rest)
    (fit : ∀ d ∈ shown, d.span.fits (byteSize expression.toList) = true)
    (unfit : d.span.fits (byteSize expression.toList) = false) :
    Ends (Linter.reportAll paint producer expression filter ds)
      (.error (.render (.invalidSpan d.span (byteSize expression.toList))))
      { bytes := shown.flatMap (Diagnostic.bytes paint producer expression) } := by
  have stopped : Ends ((d :: rest).forM (Linter.report paint producer expression))
      (.error (.render (.invalidSpan d.span (byteSize expression.toList)))) {} :=
    (Ends.report_unfit unfit).bind_error
  have written : Ends (shown.forM (Linter.report paint producer expression)) (.ok ()) _ := .forM_report fit
  have reported := written.seq stopped
  rw [List.forM_eq_forM, ← List.forM_append, Record.append_empty] at reported
  unfold Linter.reportAll
  rw [split]
  exact reported.bind_error

end

/-! Rules. -/

/-- The log of a rule that starts. -/
def startEntry (rule : Rule) : Log.Entry :=
  .debug s!"running plugin {rule.name}"

/-- The log of a rule that has found something or nothing. -/
def foundEntry (rule : Rule) (ds : List Diagnostic) : Log.Entry :=
  .debug s!"plugin {rule.name} produced {ds.length} diagnostic(s)"

/-- The log of a call that all rules pass. -/
def verdictEntry (filter : Severity) (reported : Nat) : Log.Entry :=
  .info s!"linted expression: {reported} diagnostic(s) at or above {filter.name}"

section

variable (paint : Paint) (expression : String) (filter : Severity) (e : Expr)

/-- The rule has findings, and those that pass the filter can all be written. -/
structure Passes (rule : Rule) (ds : List Diagnostic) : Prop where
  checked : rule.check e = .ok ds
  fit : ∀ d ∈ Diagnostic.visible filter ds, d.span.fits (byteSize expression.toList) = true

/-- The rule ends the call: it fails, or a finding that passes the filter does not fit the text. Behind
the start of the rule, `entries` are logged, and `shown` are the findings that are written before. -/
inductive Stops (rule : Rule) : List Log.Entry → List Diagnostic → LintError → Prop
  | failed {error : RuleError} : rule.check e = .error error → Stops rule [] [] (.rule rule.name error)
  | unfit {ds shown rest : List Diagnostic} {d : Diagnostic} :
      rule.check e = .ok ds → Diagnostic.visible filter ds = shown ++ d :: rest →
      (∀ d ∈ shown, d.span.fits (byteSize expression.toList) = true) →
      d.span.fits (byteSize expression.toList) = false →
      Stops rule [foundEntry rule ds] shown (.render (.invalidSpan d.span (byteSize expression.toList)))

/-- What a rule that passes adds. -/
def passRecord [Coloring] (rule : Rule) (ds : List Diagnostic) : Record where
  bytes := (Diagnostic.visible filter ds).flatMap (Diagnostic.bytes paint rule.name expression)
  log := [startEntry rule, foundEntry rule ds]
  applied := 1

/-- What a rule that stops the call adds. -/
def stopRecord [Coloring] (rule : Rule) (entries : List Log.Entry) (shown : List Diagnostic) : Record where
  bytes := shown.flatMap (Diagnostic.bytes paint rule.name expression)
  log := startEntry rule :: entries
  applied := 1

variable {paint expression filter e}

theorem Ends.apply [Coloring] {rule : Rule} {ds : List Diagnostic}
    (passes : Passes expression filter e rule ds) :
    Ends (Linter.apply paint expression filter e rule) (.ok (Diagnostic.visible filter ds).length)
      (passRecord paint expression filter rule ds) := by
  unfold Linter.apply
  rw [passes.checked]
  exact (Ends.log _).seq (Ends.count.seq ((Ends.log _).seq (.reportAll passes.fit)))

theorem Ends.apply_stops [Coloring] {rule : Rule} {entries : List Log.Entry} {shown : List Diagnostic}
    {error : LintError} (stops : Stops expression filter e rule entries shown error) :
    Ends (Linter.apply paint expression filter e rule) (.error error)
      (stopRecord paint expression rule entries shown) := by
  unfold Linter.apply
  cases stops with
  | failed failed =>
    rw [failed]
    exact (Ends.log _).seq (Ends.count.seq (.throw _))
  | unfit checked split fit unfit =>
    rw [checked]
    exact (Ends.log _).seq (Ends.count.seq ((Ends.log _).seq (.reportAll_unfit split fit unfit)))

variable (paint expression filter)

/-- What rules that pass add, each with its findings. -/
def passRecords [Coloring] (done : List (Rule × List Diagnostic)) : Record where
  bytes := done.flatMap fun (rule, ds) =>
    (Diagnostic.visible filter ds).flatMap (Diagnostic.bytes paint rule.name expression)
  log := done.flatMap fun (rule, ds) => [startEntry rule, foundEntry rule ds]
  applied := done.length

variable {paint expression filter}

/-- All findings of rules that pass the filter. -/
def allVisible (filter : Severity) (done : List (Rule × List Diagnostic)) : List Diagnostic :=
  done.flatMap fun (_, ds) => Diagnostic.visible filter ds

theorem passRecords_cons [Coloring] (rule : Rule) (ds : List Diagnostic)
    (done : List (Rule × List Diagnostic)) :
    passRecords paint expression filter ((rule, ds) :: done) =
      passRecord paint expression filter rule ds ++ passRecords paint expression filter done := by
  ext1
  · rfl
  · rfl
  · exact Nat.add_comm done.length 1

/-- Rules that pass come before all others and leave the others as they are. -/
theorem Ends.applyAll [Coloring] {done : List (Rule × List Diagnostic)}
    (pass : ∀ entry ∈ done, Passes expression filter e entry.1 entry.2) {rest : List Rule}
    {result : Except LintError Nat} {record : Record}
    (ends : Ends (Linter.applyAll paint expression filter e rest) result record) :
    Ends (Linter.applyAll paint expression filter e (done.map Prod.fst ++ rest))
      (result.map ((allVisible filter done).length + ·)) (passRecords paint expression filter done ++ record) := by
  induction done with
  | nil =>
    have unchanged : result.map (([] : List Diagnostic).length + ·) = result := by
      cases result <;> simp [Except.map]
    rw [show passRecords paint expression filter [] = {} from rfl, Record.empty_append,
      show allVisible filter [] = [] from rfl, unchanged]
    exact ends
  | cons entry done ih =>
    obtain ⟨rule, ds⟩ := entry
    have first : Ends (Linter.apply paint expression filter e rule) (.ok _) _ := .apply (pass (rule, ds) (by simp))
    have later := ih fun entry member => pass entry (by simp [member])
    rw [passRecords_cons, Record.append_assoc]
    cases result with
    | error error => exact first.bind later.bind_error
    | ok n =>
      -- The findings of the first rule are counted before those of the others.
      have counted : (allVisible filter ((rule, ds) :: done)).length + n =
          (Diagnostic.visible filter ds).length + ((allVisible filter done).length + n) := by
        simp [allVisible, Nat.add_assoc]
      refine first.bind ?_
      rw [Except.map, counted]
      exact later.map rfl

end

variable {linter : Linter} {expression : String} {filter : Severity} {e : Expr}
  {done : List (Rule × List Diagnostic)}

/-- A call whose rules all pass. -/
theorem Ends.run [Pattern.Engine] [Coloring] (parsed : Expr.parse expression = .ok e)
    (rules : linter.rules = done.map Prod.fst)
    (pass : ∀ entry ∈ done, Passes expression filter e entry.1 entry.2) :
    Ends (linter.run expression filter)
      (.ok ⟨0 < (allVisible filter done).length, (allVisible filter done).length⟩)
      (passRecords linter.paint expression filter done ++
        { log := [verdictEntry filter (allVisible filter done).length] }) := by
  have applied : Ends (Linter.applyAll linter.paint expression filter e linter.rules)
      (.ok (allVisible filter done).length) (passRecords linter.paint expression filter done) := by
    have nothing : Ends (Linter.applyAll linter.paint expression filter e []) (.ok 0) {} := .pure 0
    have all := Ends.applyAll pass nothing
    rw [List.append_nil, Record.append_empty, ← rules] at all
    exact all
  unfold Linter.run
  rw [parsed]
  exact applied.bind ((Ends.log _).map rfl)

/-- A call up to the first rule that stops it. -/
theorem Ends.run_stops [Pattern.Engine] [Coloring] {rule : Rule} {after : List Rule}
    {entries : List Log.Entry} {shown : List Diagnostic}
    {error : LintError} (parsed : Expr.parse expression = .ok e)
    (rules : linter.rules = done.map Prod.fst ++ rule :: after)
    (pass : ∀ entry ∈ done, Passes expression filter e entry.1 entry.2)
    (stops : Stops expression filter e rule entries shown error) :
    Ends (linter.run expression filter) (.error error)
      (passRecords linter.paint expression filter done ++ stopRecord linter.paint expression rule entries shown) := by
  have stopped : Ends (Linter.applyAll linter.paint expression filter e (rule :: after)) (.error error)
      (stopRecord linter.paint expression rule entries shown) := (Ends.apply_stops stops).bind_error
  have applied := Ends.applyAll pass stopped
  rw [← rules] at applied
  unfold Linter.run
  rw [parsed]
  exact applied.bind_error

/-! Output alone. -/

-- The log and the counters of the session may change in any way: nothing that is written depends on
-- them.
/-- Over an unlimited sink, the action returns `a` and appends `bytes`. -/
def Writes {α : Type} (action : LintM α) (a : α) (bytes : List UInt8) : Prop :=
  ∀ s : Session, s.sink.limit = none → ∃ s', action.run.run s = (.ok a, s') ∧
    s'.sink = { s.sink with written := s.sink.written ++ bytes }

theorem Ends.writes {α : Type} {action : LintM α} {a : α} {record : Record}
    (ends : Ends action (.ok a) record) : Writes action a record.bytes :=
  fun s unlimited => ⟨_, ends s unlimited, rfl⟩

/-- A lint call with a single rule. -/
theorem Writes.run [Pattern.Engine] [Coloring] {paint : Paint} {expression : String} {filter : Severity}
    {e : Expr} {rule : Rule} {color : ColorMode} {ds : List Diagnostic}
    (parsed : Expr.parse expression = .ok e) (checked : rule.check e = .ok ds)
    (fit : ∀ d ∈ ds, d.span.fits (byteSize expression.toList) = true) :
    Writes ((⟨[rule], color, paint⟩ : Linter).run expression filter)
      ⟨0 < (Diagnostic.visible filter ds).length, (Diagnostic.visible filter ds).length⟩
      ((Diagnostic.visible filter ds).flatMap (Diagnostic.bytes paint rule.name expression)) := by
  have passes : Passes expression filter e rule ds :=
    ⟨checked, fun d member => fit d (Diagnostic.visible_subset filter ds member)⟩
  have ends : Ends ((⟨[rule], color, paint⟩ : Linter).run expression filter) _ _ :=
    .run parsed (show [rule] = [(rule, ds)].map Prod.fst from rfl) (by simpa using passes)
  simpa [allVisible, passRecords] using ends.writes

end Linter

end QueryLint
