import QueryLint.Proofs.Linter.Output

/-! Linting over a sink that is full at some point.

Two runs are compared: one over a sink that takes everything, and one over a sink that takes `n` bytes in
all. Until a byte does not fit they go side by side. From there on the second run fails where the first
goes on writing, but its sink keeps holding the first `n` bytes of the other.
-/

set_option autoImplicit false

namespace QueryLint.Linter

/-- One session takes everything, the other holds the first `n` bytes of it and takes no more than those. -/
structure Truncated (n : Nat) (full cut : Session) : Prop where
  unlimited : full.sink.limit = none
  limited : cut.sink = ⟨full.sink.written.take n, some n⟩

/-- Some byte was written behind the first `n`. -/
def Crosses (n : Nat) (before after : Session) : Prop :=
  n < after.sink.written.length ∧ before.sink.written.length < after.sink.written.length

instance (n : Nat) (before after : Session) : Decidable (Crosses n before after) :=
  inferInstanceAs (Decidable (_ ∧ _))

/-- What is left of a result when the sink may be full. -/
def cutResult {α : Type} (n : Nat) (before after : Session) (result : Except LintError α) :
    Except LintError α :=
  if Crosses n before after then .error (.render .closed) else result

/-- Side by side, the sessions stay as they are to each other, and the results differ only where a byte did
not fit. -/
structure Follows {α : Type} (n : Nat) (before : Session) (ran ran' : Except LintError α × Session) : Prop where
  truncated : Truncated n ran.2 ran'.2
  grows : before.sink.written <+: ran.2.sink.written
  result : ran'.1 = cutResult n before ran.2 ran.1

def Truncates {α : Type} (action : LintM α) : Prop :=
  ∀ (n : Nat) (full cut : Session), Truncated n full cut →
    Follows n full (action.run.run full) (action.run.run cut)

/-- Of a full sink, nothing that is written later is seen. -/
theorem Truncated.extend {n : Nat} {full full' cut : Session} (truncated : Truncated n full cut)
    (unlimited : full'.sink.limit = none) (grows : full.sink.written <+: full'.sink.written)
    (reached : n ≤ full.sink.written.length) : Truncated n full' cut := by
  obtain ⟨more, same⟩ := grows
  refine ⟨unlimited, ?_⟩
  rw [truncated.limited, ← same, List.take_append_of_le_length reached]

theorem Truncates.bind {α β : Type} {action : LintM α} {next : α → LintM β} (first : Truncates action)
    (second : ∀ a, Truncates (next a)) : Truncates (action >>= next) := by
  intro n full cut truncated
  have followed := first n full cut truncated
  rw [Session.run_bind, Session.run_bind]
  generalize action.run.run full = ran at *
  generalize action.run.run cut = ran' at *
  obtain ⟨result, full₁⟩ := ran
  obtain ⟨result', cut₁⟩ := ran'
  obtain ⟨truncated, grows, same⟩ := followed
  have grown : full.sink.written.length ≤ full₁.sink.written.length := grows.length_le
  by_cases crossed : Crosses n full full₁
  · -- The second run has failed. Whatever the first still writes is cut off.
    obtain rfl : result' = .error (.render .closed) := same.trans (if_pos crossed)
    cases result with
    | error error => exact ⟨truncated, grows, (if_pos crossed).symm⟩
    | ok a =>
      have later := second a n full₁ cut₁ truncated
      have growsMore := later.grows.length_le
      have still : Crosses n full ((next a).run.run full₁).2 :=
        ⟨Nat.lt_of_lt_of_le crossed.1 growsMore, Nat.lt_of_lt_of_le crossed.2 growsMore⟩
      exact ⟨truncated.extend later.truncated.unlimited later.grows (Nat.le_of_lt crossed.1),
        grows.trans later.grows, (if_pos still).symm⟩
  · obtain rfl : result' = result := same.trans (if_neg crossed)
    cases result' with
    | error error => exact ⟨truncated, grows, (if_neg crossed).symm⟩
    | ok a =>
      have later := second a n full₁ cut₁ truncated
      refine ⟨later.truncated, grows.trans later.grows, later.result.trans ?_⟩
      -- Bytes of the first part are in front of the limit, or there are none.
      have same : Crosses n full₁ ((next a).run.run full₁).2 ↔ Crosses n full ((next a).run.run full₁).2 := by
        unfold Crosses at *
        omega
      simp only [cutResult, same]

/-! Steps of a lint call. -/

theorem Truncates.silent {α : Type} {action : LintM α} {result : Except LintError α}
    (change : Session → Session) (ran : ∀ s, action.run.run s = (result, change s))
    (kept : ∀ s, (change s).sink = s.sink) : Truncates action := by
  intro n full cut truncated
  rw [ran, ran]
  refine ⟨⟨?_, ?_⟩, ?_, ?_⟩
  · rw [kept, truncated.unlimited]
  · rw [kept, kept, truncated.limited]
  · simp [kept]
  · have notCrossed : ¬Crosses n full (change full) := by simp [Crosses, kept]
    exact (if_neg notCrossed).symm

theorem Truncates.pure {α : Type} (a : α) : Truncates (Pure.pure a) :=
  .silent id (fun _ => rfl) (fun _ => rfl)

theorem Truncates.throw {α : Type} (error : LintError) : Truncates (throw error : LintM α) :=
  .silent id (fun _ => rfl) (fun _ => rfl)

theorem Truncates.log (entry : Log.Entry) : Truncates (Linter.log entry) :=
  .silent _ (fun _ => rfl) (fun _ => rfl)

theorem Truncates.count : Truncates (modify fun s => { s with applied := s.applied + 1 }) :=
  .silent _ (fun _ => rfl) (fun _ => rfl)

theorem Truncates.emit (text : String) : Truncates (Linter.emit text) := by
  intro n full cut truncated
  rw [run_emit, run_emit, Sink.writeText, Sink.writeText, Sink.write_of_unlimited truncated.unlimited,
    truncated.limited, Sink.write_take]
  generalize text.toUTF8.toList = bytes
  refine ⟨⟨truncated.unlimited, rfl⟩, List.prefix_append _ _, ?_⟩
  have fits : bytes.length ≤ n - full.sink.written.length ↔
      ¬Crosses n full { full with sink := { full.sink with written := full.sink.written ++ bytes } } := by
    simp only [Crosses, List.length_append]
    omega
  simp only [cutResult, fits]
  split <;> simp_all

section

variable (paint : Paint) (producer expression : String) (filter : Severity)

variable [Coloring]

theorem Truncates.report (d : Diagnostic) : Truncates (Linter.report paint producer expression d) := by
  unfold Linter.report
  split
  · exact .emit _
  · exact .throw _

theorem Truncates.forM_report (shown : List Diagnostic) :
    Truncates (shown.forM (Linter.report paint producer expression)) := by
  induction shown with
  | nil => exact .pure ()
  | cons d shown ih => exact (Truncates.report paint producer expression d).bind fun _ => ih

theorem Truncates.reportAll (ds : List Diagnostic) :
    Truncates (Linter.reportAll paint producer expression filter ds) :=
  (Truncates.forM_report paint producer expression _).bind fun _ => .pure _

theorem Truncates.apply (e : Expr) (rule : Rule) :
    Truncates (Linter.apply paint expression filter e rule) := by
  unfold Linter.apply
  refine (Truncates.log _).bind fun _ => Truncates.count.bind fun _ => ?_
  split
  · exact .throw _
  · exact (Truncates.log _).bind fun _ => .reportAll paint rule.name expression filter _

theorem Truncates.applyAll (e : Expr) (rules : List Rule) :
    Truncates (Linter.applyAll paint expression filter e rules) := by
  induction rules with
  | nil => exact .pure 0
  | cons rule rules ih =>
    exact (Truncates.apply paint expression filter e rule).bind fun _ => ih.bind fun _ => .pure _

end

variable [Pattern.Engine] [Coloring]

theorem Truncates.run (linter : Linter) (expression : String) (filter : Severity) :
    Truncates (linter.run expression filter) := by
  unfold Linter.run
  split
  · exact (Truncates.log _).bind fun _ => (Truncates.reportAll linter.paint parserName expression filter _).bind
      fun _ => .pure _
  · exact (Truncates.applyAll linter.paint expression filter _ linter.rules).bind fun _ =>
      (Truncates.log _).bind fun _ => .pure _

/-! Many calls. -/

/-- Lint calls one after the other. One that fails does not keep the next from being made. -/
def after (linter : Linter) (s : Session) : List (String × Severity) → Session
  | [] => s
  | (expression, filter) :: calls => linter.after ((linter.run expression filter).run.run s).2 calls

theorem Truncated.after {n : Nat} {full cut : Session} (linter : Linter) (calls : List (String × Severity))
    (truncated : Truncated n full cut) : Truncated n (linter.after full calls) (linter.after cut calls) := by
  induction calls generalizing full cut with
  | nil => exact truncated
  | cons call calls ih => exact ih (Truncates.run linter call.1 call.2 n full cut truncated).truncated

/-- A sink that takes `n` bytes holds the first `n` bytes of one that takes everything, however many calls
were made. The next call has the same result over both, unless it writes behind the first `n` bytes: then
it fails, for the sink is closed. -/
theorem run_truncates (linter : Linter) (n : Nat) (calls : List (String × Severity)) (expression : String)
    (filter : Severity) :
    let full := linter.after {} calls
    let cut := linter.after { sink := { limit := some n } } calls
    let call := (linter.run expression filter).run.run
    cut.sink.written = full.sink.written.take n ∧
      (call cut).2.sink.written = (call full).2.sink.written.take n ∧
      (call cut).1 = if Crosses n full (call full).2 then .error (.render .closed) else (call full).1 := by
  intro full cut call
  have start : Truncated n {} { sink := { limit := some n } } := ⟨rfl, by rw [List.take_nil]⟩
  have behind : Truncated n full cut := start.after linter calls
  have followed : Follows n full (call full) (call cut) := Truncates.run linter expression filter n full cut behind
  refine ⟨?_, ?_, followed.result⟩
  · rw [behind.limited]
  · rw [followed.truncated.limited]

end QueryLint.Linter
