import QueryLint.Proofs.Settings.Flags
import QueryLint.Settings.Basic

/-! Settings under one merge after the other.

A merge says something about some settings and nothing about the others. After any number of them every
setting has the last value that was said, labels one by one, and the labels still have names.
-/

set_option autoImplicit false

namespace QueryLint

open DeniedLabels (GiveAll LastGives Malformed Unnamed ofFlags readFlag readFlags)

/-- What is to be merged into settings, with the flags for denied labels as they are written. -/
structure Merge where
  flags : List String := []
  levelFilter : Option Severity := none
  color : Option ColorChoice := none
  verbose : Option Bool := none
  recursive : Option Bool := none
  manifests : List String := []

namespace Merge

/-- The last value that merges supply, or the one from before. -/
def lastOr {α : Type} (steps : List Merge) (supplied : Merge → Option α) (before : α) : α :=
  (steps.filterMap supplied).getLast?.getD before

/-- No manifests at all are nothing that is supplied. -/
def manifests? (step : Merge) : Option (List String) :=
  if step.manifests = [] then none else some step.manifests

/-- The overrides of a merge whose flags give `entries`. -/
def overridesOf (step : Merge) (entries : List (String × String)) : Overrides where
  levelFilter := step.levelFilter
  color := step.color
  verbose := step.verbose
  recursive := step.recursive
  deniedLabels := entries
  manifests := step.manifests

def overrides (step : Merge) : Except SettingsError Overrides := do
  let entries ← readFlags step.flags
  pure (step.overridesOf entries)

end Merge

namespace Settings

/-- One merge; if a flag cannot be read, nothing is merged. -/
def merge (s : Settings) (step : Merge) : Except SettingsError Settings := do
  let overrides ← step.overrides
  pure (s.override overrides)

def mergeAll (s : Settings) (steps : List Merge) : Except SettingsError Settings :=
  steps.foldlM merge s

theorem validate_eq_ok_iff {s : Settings} : s.validate = .ok () ↔ "" ∉ s.deniedLabels.labels := by
  rw [validate]
  split
  · next found => exact iff_of_false (fun valid => nomatch valid) (by simpa using found)
  · next none => exact iff_of_true rfl (by simpa using none)

end Settings

/-- What `steps` make of the settings `start`. -/
structure Merged (start : Settings) (steps : List Merge) (s : Settings) : Prop where
  levelFilter : s.levelFilter = Merge.lastOr steps Merge.levelFilter start.levelFilter
  color : s.output.color = Merge.lastOr steps Merge.color start.output.color
  verbose : s.output.verbose = Merge.lastOr steps Merge.verbose start.output.verbose
  recursive : s.recursive = Merge.lastOr steps Merge.recursive start.recursive
  manifests : s.manifests = Merge.lastOr steps Merge.manifests? start.manifests
  /-- The denied labels are those of all flags, added in their order. -/
  deniedLabels : ∃ entries, readFlags (steps.flatMap Merge.flags) = .ok entries ∧
    s.deniedLabels = start.deniedLabels.insertAll entries

namespace Merge

theorem lastOr_concat {α : Type} (steps : List Merge) (step : Merge) (supplied : Merge → Option α)
    (before : α) :
    lastOr (steps ++ [step]) supplied before = (supplied step).getD (lastOr steps supplied before) := by
  rw [lastOr, List.filterMap_append]
  cases supplies : supplied step with
  | none => simp [lastOr, supplies]
  | some value => simp [supplies]

end Merge

namespace Merged

variable {start s : Settings} {steps : List Merge}

theorem nothing (s : Settings) : Merged s [] s :=
  ⟨rfl, rfl, rfl, rfl, rfl, [], rfl, rfl⟩

/-- One more merge whose flags can all be read. -/
theorem step (merged : Merged start steps s) {step : Merge} {entries : List (String × String)}
    (read : readFlags step.flags = .ok entries) :
    Merged start (steps ++ [step]) (s.override (step.overridesOf entries)) where
  levelFilter := by
    rw [Merge.lastOr_concat, ← merged.levelFilter]
    rfl
  color := by
    rw [Merge.lastOr_concat, ← merged.color]
    rfl
  verbose := by
    rw [Merge.lastOr_concat, ← merged.verbose]
    rfl
  recursive := by
    rw [Merge.lastOr_concat, ← merged.recursive]
    rfl
  manifests := by
    rw [Merge.lastOr_concat, ← merged.manifests, Merge.manifests?]
    by_cases none : step.manifests = [] <;> simp [Settings.override, Merge.overridesOf, none]
  deniedLabels := by
    obtain ⟨before, readBefore, labels⟩ := merged.deniedLabels
    refine ⟨before ++ entries, ?_, ?_⟩
    · rw [List.flatMap_append, List.flatMap_singleton]
      exact DeniedLabels.readFlags_append readBefore read
    · rw [LabelMap.insertAll_append, ← labels]
      rfl

/-- Any number of further merges whose flags can all be read. -/
theorem run (merged : Merged start steps s) {more : List Merge}
    (readable : ∀ step ∈ more, ∀ flag ∈ step.flags, ∃ entry, readFlag flag = .ok entry) :
    ∃ s', s.mergeAll more = .ok s' ∧ Merged start (steps ++ more) s' := by
  induction more generalizing s steps with
  | nil => exact ⟨s, rfl, by rwa [List.append_nil]⟩
  | cons next more ih =>
    obtain ⟨readableNext, readableMore⟩ := List.forall_mem_cons.mp readable
    obtain ⟨entries, read⟩ := DeniedLabels.exists_readFlags_iff.mpr readableNext
    obtain ⟨s', ran, mergedAll⟩ := ih (merged.step read) readableMore
    have taken : s.merge next = .ok (s.override (next.overridesOf entries)) := by
      rw [Settings.merge, Merge.overrides, read]
      rfl
    refine ⟨s', ?_, by rwa [List.append_assoc] at mergedAll⟩
    rw [Settings.mergeAll, List.foldlM_cons, taken]
    exact ran

/-- Flags give no label the empty name. -/
theorem validate (merged : Merged start steps s) (valid : start.validate = .ok ()) : s.validate = .ok () := by
  obtain ⟨entries, read, labels⟩ := merged.deniedLabels
  rw [Settings.validate_eq_ok_iff] at valid ⊢
  rw [labels, LabelMap.mem_labels_insertAll]
  rintro (fromFlag | fromStart)
  · obtain ⟨entry, member, nameless⟩ := List.mem_map.mp fromFlag
    exact (DeniedLabels.readFlags_eq_ok_iff.mp read).label_ne_empty member nameless
  · exact valid fromStart

end Merged

/-- After merges whose flags can all be read, settings that are valid are still valid; a label has the
pattern that the last flag for it gives, or the one it had; of every other setting the last value supplied
counts. From no rules at all the merges make the rules of all their flags together, and flags make no rules
if one of them is malformed, and only then. -/
theorem Settings.mergeAll_last (start : Settings) (valid : start.validate = .ok ()) (steps : List Merge)
    (readable : ∀ step ∈ steps, ∀ flag ∈ step.flags, ∃ entry, readFlag flag = .ok entry) :
    ∃ s, start.mergeAll steps = .ok s ∧ s.validate = .ok () ∧
      (∀ label pattern, s.deniedLabels.get? label = some pattern ↔
        LastGives (steps.flatMap Merge.flags) label pattern ∨
          Unnamed (steps.flatMap Merge.flags) label ∧ start.deniedLabels.get? label = some pattern) ∧
      s.levelFilter = Merge.lastOr steps Merge.levelFilter start.levelFilter ∧
      s.output.color = Merge.lastOr steps Merge.color start.output.color ∧
      s.output.verbose = Merge.lastOr steps Merge.verbose start.output.verbose ∧
      s.recursive = Merge.lastOr steps Merge.recursive start.recursive ∧
      s.manifests = Merge.lastOr steps Merge.manifests? start.manifests ∧
      (start.deniedLabels = {} → ofFlags (steps.flatMap Merge.flags) = .ok s.deniedLabels) ∧
      ∀ flags, (∃ e, ofFlags flags = .error e) ↔ ∃ flag ∈ flags, Malformed flag := by
  obtain ⟨s, ran, merged⟩ := (Merged.nothing start).run readable
  rw [List.nil_append] at merged
  obtain ⟨entries, read, labels⟩ := merged.deniedLabels
  refine ⟨s, ran, merged.validate valid, fun label pattern => ?_, merged.levelFilter, merged.color,
    merged.verbose, merged.recursive, merged.manifests, fun none => ?_, fun _ =>
    DeniedLabels.exists_ofFlags_error_iff⟩
  · rw [labels]
    exact DeniedLabels.get?_insertAll_iff _ (DeniedLabels.readFlags_eq_ok_iff.mp read) label pattern
  · rw [ofFlags, read, labels, none]
    rfl

/-- A blank around a name does not matter, and an equals sign in a pattern does not end it. -/
theorem Settings.mergeAll_last_twice :
    let start : Settings := { deniedLabels := ⟨[("job", "a")], List.pairwise_singleton _ _⟩, manifests := ["m"] }
    let steps : List Merge :=
      [{ flags := [" job =b", "env=x"], color := some .always }, { flags := ["job==c"], recursive := some true }]
    start.validate = .ok () ∧
    (∀ step ∈ steps, ∀ flag ∈ step.flags, ∃ entry, readFlag flag = .ok entry) ∧
    LastGives (steps.flatMap Merge.flags) "job" "=c" ∧
    ∃ s, start.mergeAll steps = .ok s ∧ s.validate = .ok () ∧ s.deniedLabels.get? "job" = some "=c" ∧
      s.output.color = .always ∧ s.recursive = true ∧ s.manifests = ["m"] := by
  intro start steps
  have valid : start.validate = .ok () := by decide
  have readable : ∀ step ∈ steps, ∀ flag ∈ step.flags, ∃ entry, readFlag flag = .ok entry := by
    simp only [steps, List.forall_mem_cons]
    exact ⟨⟨⟨("job", "b"), by decide⟩, ⟨("env", "x"), by decide⟩, by simp⟩,
      ⟨⟨("job", "=c"), by decide⟩, by simp⟩, by simp⟩
  have last : LastGives (steps.flatMap Merge.flags) "job" "=c" :=
    ⟨[" job =b", "env=x"], "job==c", [], rfl, DeniedLabels.readFlag_eq_ok_iff.mp (by decide), by simp [Unnamed]⟩
  obtain ⟨s, ran, still, labels, -, color, -, recursive, manifests, -⟩ :=
    Settings.mergeAll_last start valid steps readable
  exact ⟨valid, readable, last, s, ran, still, (labels _ _).mpr (.inl last), color, recursive, manifests⟩

end QueryLint
